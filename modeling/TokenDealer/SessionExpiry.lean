import TokenDealer.CredentialSoundness

set_option autoImplicit true

namespace TokenDealer

namespace Tables

section

variable {tools : StoreTools} {t : Tables} {now expires : Utc} {id token userId : String}

theorem mem_selectSession : (s, r) ∈ t.selectSession now sessionHash ↔
    (s ∈ t.sessions.rows ∧ s.sessionHash = sessionHash ∧
      Str.before (Calendar.sqlTimestamp now) s.expiresAt = true) ∧
      r ∈ t.users.rows ∧ r.id = s.userId := by
  rw [selectSession, Sql.mem_join, List.mem_filter, Bool.and_eq_true, decide_eq_true_eq,
    decide_eq_true_eq]

theorem getSession_error_iff_exists : (∃ e, (t.getSession tools now token).1 = .error e) ↔
    ∃ found, found ∈ t.selectSession now (tools.sha256Hex token) := by
  rw [getSession]
  cases hhead : (t.selectSession now (tools.sha256Hex token)).head? with
  | none =>
    rw [List.head?_eq_none_iff.mp hhead]
    apply iff_of_false
    · intro h
      obtain ⟨e, he⟩ := h
      cases he
    · intro h
      obtain ⟨found, hfound⟩ := h
      exact List.not_mem_nil hfound
  | some found =>
    refine iff_of_true ?_ ⟨found, List.mem_of_mem_head? hhead⟩
    obtain ⟨s, r⟩ := found
    obtain ⟨e, he⟩ := rowToUserFromSession_columns tools now s r
    dsimp only
    rw [he]
    cases rowToSession tools now (s.columns ++ r.columns) with
    | error e' => exact ⟨e', rfl⟩
    | ok session => exact ⟨e, rfl⟩

/-- A session that the tables have is found as long as the text of its last moment is the later
one, and then it cannot be read. -/
theorem getSession_error_iff (h : HasSession tools t id token userId expiresText) :
    (∃ e, (t.getSession tools now token).1 = .error e) ↔
      Str.before (Calendar.sqlTimestamp now) expiresText = true := by
  obtain ⟨s, hs, rfl, hhash, rfl, rfl⟩ := h
  rw [getSession_error_iff_exists]
  constructor
  · intro hselected
    obtain ⟨⟨s', r⟩, hfound⟩ := hselected
    obtain ⟨⟨hs', hhash', hbefore⟩, -⟩ := mem_selectSession.mp hfound
    have heq : s' = s := Sql.Table.eq_of_clash hs' hs (.inr (hhash'.trans hhash.symm))
    exact heq ▸ hbefore
  · intro hbefore
    obtain ⟨r, hr, hid⟩ := t.sessions_user s hs
    exact ⟨(s, r), mem_selectSession.mpr ⟨⟨hs, hhash, hbefore⟩, hr, hid⟩⟩

theorem hasSession_prune :
    HasSession tools (t.pruneExpiredSessions now) id token userId expiresText ↔
      HasSession tools t id token userId expiresText ∧
        ¬ Str.before expiresText (Calendar.sqlTimestamp now) = true := by
  apply Sql.Table.exists_mem_deleteWhere
  intro s hs
  obtain ⟨-, -, -, hexpires⟩ := hs
  rw [hexpires]

/-- In the years of four digits a session is found, and kept, until its last day is over. -/
theorem session_until_midnight (hnow : Calendar.FourDigits (Calendar.dayOf now))
    (hexpires : Calendar.FourDigits (Calendar.dayOf expires))
    (h : HasSession tools t id token userId (Calendar.rfc3339 expires)) :
    ((∃ e, (t.getSession tools now token).1 = .error e) ↔
      Calendar.dayOf now ≤ Calendar.dayOf expires) ∧
    (HasSession tools (t.pruneExpiredSessions now) id token userId (Calendar.rfc3339 expires) ↔
      Calendar.dayOf now ≤ Calendar.dayOf expires) := by
  rw [getSession_error_iff h, hasSession_prune, and_iff_right h,
    Calendar.before_rfc3339 hnow hexpires, Calendar.rfc3339_before hnow hexpires, Int.not_lt]
  exact ⟨Iff.rfl, Iff.rfl⟩

/-- A session that has been opened and not ended since is in the tables. As none can be read, it
is accepted when it should be, and pruned only when it may be, exactly after its last moment. -/
theorem session_expiry_iff (hsha : Function.Injective tools.sha256Hex)
    (hopen : History.Since
      (fun front op => Opens tools (run tools front) op id token userId expires)
      (fun op => op.Ends id userId) ops) (now : Utc) :
    HasSession tools (run tools ops) id token userId (Calendar.rfc3339 expires) ∧
    ((((∃ u, AcceptsSession tools (run tools ops) now token u) ↔ now < expires) ∧
      (¬ HasSession tools ((run tools ops).pruneExpiredSessions now) id token userId
          (Calendar.rfc3339 expires) → expires ≤ now)) ↔
      expires ≤ now) := by
  refine ⟨?_, ?_⟩
  · obtain ⟨front, op, back, hops, hopens, hback⟩ := hopen
    exact (hasSession_run hsha).mpr ⟨front, op, back, hops, ⟨expires, rfl, hopens⟩, hback⟩
  · have hnever : ¬ ∃ u, AcceptsSession tools (run tools ops) now token u := by
      intro h
      obtain ⟨u, hu⟩ := h
      exact not_acceptsSession hu
    rw [iff_false_left hnever, Int.not_lt]
    exact ⟨And.left, fun h => ⟨h, fun _ => h⟩⟩

end

theorem sampleSession_opened : History.Since
    (fun front op => Opens sampleStoreTools (run sampleStoreTools front) op "s1" sampleToken "u1"
      sampleExpires)
    (fun op => op.Ends "s1" "u1") sampleOps :=
  ⟨[_, _], _, [], rfl, ⟨sampleNow, none, none, 720, _, _, rfl, rfl, rfl⟩,
    fun _ h => absurd h List.not_mem_nil⟩

theorem session_expiry_sample :
    ((∃ u, AcceptsSession sampleStoreTools (run sampleStoreTools sampleOps) sampleExpires
        sampleToken u) ↔ sampleExpires < sampleExpires) ∧
      (¬ HasSession sampleStoreTools
          ((run sampleStoreTools sampleOps).pruneExpiredSessions sampleExpires) "s1" sampleToken
          "u1" (Calendar.rfc3339 sampleExpires) →
        sampleExpires ≤ sampleExpires) :=
  (session_expiry_iff sampleSha256_injective sampleSession_opened sampleExpires).2.mpr
    (Int.le_refl _)

/-- A month before it expires the session is found and refused. -/
theorem session_refused_early :
    (∃ e, ((run sampleStoreTools sampleOps).getSession sampleStoreTools sampleNow
      sampleToken).1 = .error e) ∧
    sampleNow < sampleExpires ∧
    ¬ ∃ u, AcceptsSession sampleStoreTools (run sampleStoreTools sampleOps) sampleNow
      sampleToken u := by
  refine ⟨⟨.invalidColumnType 15, ?_⟩, by decide, ?_⟩
  · rfl
  · intro h
    obtain ⟨u, hu⟩ := h
    exact not_acceptsSession hu

end Tables

end TokenDealer
