import TokenDealer.CacheAside
import TokenDealer.MigrationFrame

set_option autoImplicit true

namespace TokenDealer

open CacheAside

/-- Twelve random bytes. -/
structure Nonce where
  bytes : List UInt8
  length_bytes : bytes.length = nonceLen

namespace KeyStore

variable (crypto : Crypto)

/-- The row of a provider, decrypted. -/
def load (store : KeyStore) (providerId : String) : Except KeyStoreError (Option String) :=
  match store.db providerId with
  | .error message => .error (.db message)
  | .ok none => .ok none
  | .ok (some (ct, nonce)) =>
    if nonce.length ≠ nonceLen then .error .nonceLength
    else
      match crypto.aeadDecrypt store.cipher nonce ct with
      | none => .error .decrypt
      | some plaintext =>
        match fromUtf8 plaintext with
        | none => .error .utf8
        | some key => .ok (some key)

def keep (store : KeyStore) (providerId key : String) : KeyStore :=
  { store with cache := Function.update store.cache providerId (some key) }

def drop (store : KeyStore) (providerId : String) : KeyStore :=
  { store with cache := Function.update store.cache providerId none }

def putRow (store : KeyStore) (providerId : String) (row : Option (List UInt8 × List UInt8)) :
    KeyStore :=
  { store with db := Function.update store.db providerId (.ok row) }

/-- A lookup is one in the cache, then one in the table, whose key goes into the cache. -/
theorem get_eq (store : KeyStore) (providerId : String) :
    store.get crypto providerId =
      match store.cache providerId with
      | some key => (.ok (some key), store)
      | none =>
        (store.load crypto providerId,
          match store.load crypto providerId with
          | .ok (some key) => store.keep providerId key
          | _ => store) := by
  rw [get]
  cases store.cache providerId with
  | some key => rfl
  | none =>
    dsimp only
    rw [load]
    cases store.db providerId with
    | error message => rfl
    | ok row =>
      cases row with
      | none => rfl
      | some row =>
        obtain ⟨ct, nonce⟩ := row
        dsimp only
        split
        · rfl
        · cases crypto.aeadDecrypt store.cipher nonce ct with
          | none => rfl
          | some plaintext =>
            dsimp only
            cases fromUtf8 plaintext <;> rfl

/-- Every cached key is that of the row, and there is none where there is no row. -/
structure Coherent (store : KeyStore) : Prop where
  decrypts : ∀ p key, store.cache p = some key → store.load crypto p = .ok (some key)
  noRow : ∀ p, store.db p = .ok none → store.cache p = none

theorem coherent_iff {store : KeyStore} :
    store.Coherent crypto ↔
      ∀ p key, store.cache p = some key → store.load crypto p = .ok (some key) := by
  refine ⟨Coherent.decrypts, fun h => ⟨h, ?_⟩⟩
  intro p hrow
  cases hcache : store.cache p with
  | none => rfl
  | some key =>
    have hload := h p key hcache
    rw [load, hrow] at hload
    cases hload

/-- Where the cache is coherent, a lookup answers what the row has. -/
theorem Coherent.get {store : KeyStore} (h : store.Coherent crypto) (p : String) :
    (store.get crypto p).1 = store.load crypto p := by
  rw [get_eq]
  cases hcache : store.cache p with
  | none => rfl
  | some key => exact (h.decrypts p key hcache).symm

theorem load_congr {store store' : KeyStore} (hdb : store'.db p = store.db p)
    (hcipher : store'.cipher = store.cipher) : store'.load crypto p = store.load crypto p := by
  rw [load, load, hdb, hcipher]

theorem load_putRow_of_ne (h : q ≠ p) (store : KeyStore)
    (row : Option (List UInt8 × List UInt8)) :
    (store.putRow p row).load crypto q = store.load crypto q :=
  load_congr crypto (Function.update_of_ne h _ _) rfl

theorem load_putRow_none (store : KeyStore) (p : String) :
    (store.putRow p none).load crypto p = .ok none := by
  simp only [load, putRow, Function.update_self]

/-- What was encrypted for a row is what is read from it. -/
theorem load_putRow_some {crypto : Crypto} (hcrypto : crypto.IsAead) (store : KeyStore)
    (p plaintext : String) (nonce : Nonce) :
    (store.putRow p (some (crypto.aeadEncrypt store.cipher nonce.bytes
      (Utf8.encode plaintext.toList), nonce.bytes))).load crypto p = .ok (some plaintext) := by
  simp only [load, putRow, Function.update_self, nonce.length_bytes, ne_eq, not_true_eq_false,
    if_false, hcrypto.decrypt_encrypt, fromUtf8_encode]

end KeyStore

/-- The key store and its calls that are under way. -/
structure KeyStoreRun where
  store : KeyStore
  calls : List (Call String String) := []

/-- A call of the store up to its step at the table, or for a lookup to that at the cache; or the
next step of one of the calls. The table may refuse a write. -/
inductive KeyStoreEvent where
  | set (providerId plaintext : String) (nonce : Nonce) (written : Except String Unit)
  | get (providerId : String)
  | delete (providerId : String) (deleted : Except String Unit)
  | advance (i : Nat)

namespace KeyStoreRun

variable (crypto : Crypto)

def begin (s : KeyStoreRun) (store : KeyStore) (c : Call String String) : KeyStoreRun :=
  ⟨store, s.calls ++ [c]⟩

/-- The rest of a lookup is the step at the table and the one at the cache, the rest of a write is
the one at the cache. -/
def advance (s : KeyStoreRun) (others : List (Call String String)) :
    Call String String → KeyStoreRun
  | .look providerId =>
    match s.store.load crypto providerId with
    | .ok (some key) => ⟨s.store, others ++ [.keep providerId key]⟩
    | _ => ⟨s.store, others⟩
  | .keep providerId key => ⟨s.store.keep providerId key, others⟩
  | .drop providerId => ⟨s.store.drop providerId, others⟩

def step (s : KeyStoreRun) : KeyStoreEvent → KeyStoreRun
  | .set providerId plaintext nonce written =>
    match written with
    | .error _ => s
    | .ok () =>
      let ct := crypto.aeadEncrypt s.store.cipher nonce.bytes (Utf8.encode plaintext.toList)
      s.begin (s.store.putRow providerId (some (ct, nonce.bytes))) (.keep providerId plaintext)
  | .get providerId =>
    match s.store.cache providerId with
    | some _ => s
    | none => s.begin s.store (.look providerId)
  | .delete providerId deleted =>
    match deleted with
    | .error _ => s
    | .ok () => s.begin (s.store.putRow providerId none) (.drop providerId)
  | .advance i =>
    match s.calls[i]? with
    | none => s
    | some c => s.advance crypto (s.calls.eraseIdx i) c

/-- Calls one after the other are those of the store. -/
theorem set_alone (store : KeyStore) (p plaintext : String) (nonce : Nonce)
    (written : Except String Unit) :
    Machine.run (step crypto) ⟨store, []⟩ [.set p plaintext nonce written, .advance 0] =
      ⟨(store.set crypto nonce.bytes written p plaintext).2, []⟩ := by
  cases written <;> rfl

theorem delete_alone (store : KeyStore) (p : String) (deleted : Except String Unit) :
    Machine.run (step crypto) ⟨store, []⟩ [.delete p deleted, .advance 0] =
      ⟨(store.delete deleted p).2, []⟩ := by
  cases deleted <;> rfl

theorem get_alone (store : KeyStore) (p : String) :
    Machine.run (step crypto) ⟨store, []⟩ [.get p, .advance 0, .advance 0] =
      ⟨(store.get crypto p).2, []⟩ := by
  rw [store.get_eq]
  simp only [Machine.run, List.foldl_cons, List.foldl_nil, step]
  cases store.cache p with
  | some key => rfl
  | none =>
    dsimp only [begin, List.nil_append, List.getElem?_cons_zero, List.eraseIdx, advance]
    cases store.load crypto p with
    | error e => rfl
    | ok o => cases o <;> rfl

/-- A call that is going to leave the cache of a provider as the row has it. -/
def Mends (store : KeyStore) (p : String) : Call String String → Prop
  | .look q => q = p ∧ ∃ key, store.load crypto p = .ok (some key)
  | .keep q key => q = p ∧ store.load crypto p = .ok (some key)
  | .drop q => q = p

/-- A key that is no longer that of the row is only put into the cache while another call is under
way that is going to leave the cache as the row has it. -/
def Orderly (s : KeyStoreRun) : KeyStoreEvent → Prop
  | .advance i => ∀ p key, s.calls[i]? = some (.keep p key) →
      s.store.load crypto p = .ok (some key) ∨
        ∃ c ∈ s.calls.eraseIdx i, Mends crypto s.store p c
  | _ => True

/-- The store as a cache aside of the decrypted rows. -/
def aside (s : KeyStoreRun) : State String String where
  source p := (s.store.load crypto p).toOption.join
  cached := s.store.cache
  calls := s.calls

theorem source_eq_some {s : KeyStoreRun} :
    (s.aside crypto).source p = some key ↔ s.store.load crypto p = .ok (some key) := by
  change (s.store.load crypto p).toOption.join = some key ↔ _
  cases s.store.load crypto p with
  | error e => exact iff_of_false nofun nofun
  | ok o =>
    cases o with
    | none => exact iff_of_false nofun nofun
    | some k => simp only [Except.toOption, Option.join_some, Option.some.injEq, Except.ok.injEq]

theorem aside_advance (s : KeyStoreRun) (others : List (Call String String))
    (c : Call String String) :
    (s.advance crypto others c).aside crypto = (s.aside crypto).advance others c := by
  cases c with
  | look p =>
    have hsource : (s.aside crypto).source p = (s.store.load crypto p).toOption.join := rfl
    rw [advance, State.advance, hsource]
    cases s.store.load crypto p with
    | error e => rfl
    | ok o => cases o <;> rfl
  | keep p key => rfl
  | drop p => rfl

/-- The event of the cache aside; a write that the table refuses is none. -/
def asideEvent : KeyStoreEvent → Option (Event String String)
  | .set p plaintext _ written => written.toOption.map fun _ => .put p plaintext
  | .get p => some (.lookup p)
  | .delete p deleted => deleted.toOption.map fun _ => .remove p
  | .advance i => some (.advance i)

theorem source_putRow (s : KeyStoreRun) (row : Option (List UInt8 × List UInt8))
    (c : Call String String) (p : String)
    (hload : ((s.store.putRow p row).load crypto p).toOption.join = value) :
    (s.begin (s.store.putRow p row) c).aside crypto =
      ({ s.aside crypto with source := Function.update (s.aside crypto).source p value } :
        State String String).begin c := by
  have hsource : ((s.begin (s.store.putRow p row) c).aside crypto).source =
      Function.update (s.aside crypto).source p value := by
    funext q
    by_cases hq : q = p
    · subst hq
      rw [Function.update_self]
      exact hload
    · rw [Function.update_of_ne hq]
      exact congrArg (fun r => r.toOption.join) (KeyStore.load_putRow_of_ne crypto hq _ row)
  rw [State.begin, ← hsource]
  rfl

/-- Each step of the store is one of the cache aside. -/
theorem aside_step {crypto : Crypto} (hcrypto : crypto.IsAead) (s : KeyStoreRun)
    (e : KeyStoreEvent) :
    (s.step crypto e).aside crypto =
      (asideEvent e).elim (s.aside crypto) (s.aside crypto).step := by
  cases e with
  | set p plaintext nonce written =>
    cases written with
    | error message => rfl
    | ok u =>
      apply source_putRow
      rw [KeyStore.load_putRow_some hcrypto]
      rfl
  | get p =>
    have hcached : (s.aside crypto).cached p = s.store.cache p := rfl
    rw [asideEvent, Option.elim, State.step, hcached, step]
    cases s.store.cache p <;> rfl
  | delete p deleted =>
    cases deleted with
    | error message => rfl
    | ok u =>
      apply source_putRow
      rw [KeyStore.load_putRow_none]
      rfl
  | advance i =>
    have hcalls : (s.aside crypto).calls = s.calls := rfl
    rw [asideEvent, Option.elim, State.step, hcalls, step]
    cases s.calls[i]? with
    | none => rfl
    | some c => exact s.aside_advance crypto _ c

theorem mends_iff {s : KeyStoreRun} {p : String} {c : Call String String} :
    Mends crypto s.store p c ↔ (s.aside crypto).Mends p c := by
  cases c <;> simp only [Mends, State.Mends, source_eq_some]

theorem orderly_iff {s : KeyStoreRun} {e : KeyStoreEvent} :
    s.Orderly crypto e ↔ ∀ a, asideEvent e = some a → (s.aside crypto).Orderly a := by
  cases e with
  | set p plaintext nonce written => cases written <;> simp [Orderly, asideEvent, State.Orderly]
  | get p => simp [Orderly, asideEvent, State.Orderly]
  | delete p deleted => cases deleted <;> simp [Orderly, asideEvent, State.Orderly]
  | advance i =>
    simp only [Orderly, asideEvent, Option.some.injEq, forall_eq', State.Orderly, source_eq_some,
      mends_iff]
    rfl

theorem coherent_iff {s : KeyStoreRun} :
    s.store.Coherent crypto ↔ ∀ p, (s.aside crypto).CoherentAt p := by
  simp only [KeyStore.coherent_iff, State.CoherentAt, source_eq_some]
  rfl

theorem settling_step {crypto : Crypto} (hcrypto : crypto.IsAead) (s : KeyStoreRun)
    (e : KeyStoreEvent) (hs : ∀ p, (s.aside crypto).Settling p) (he : s.Orderly crypto e) :
    ∀ p, ((s.step crypto e).aside crypto).Settling p := by
  rw [aside_step hcrypto]
  cases ha : asideEvent e with
  | none => exact hs
  | some a => exact CacheAside.settling_step ((orderly_iff crypto).mp he a ha) hs

theorem aside_run_advance {crypto : Crypto} (hcrypto : crypto.IsAead) (s : KeyStoreRun)
    (order : List Nat) :
    (Machine.run (step crypto) s (order.map KeyStoreEvent.advance)).aside crypto =
      Machine.run State.step (s.aside crypto) (order.map Event.advance) := by
  induction order generalizing s with
  | nil => rfl
  | cons i order ih =>
    have hstep : (s.step crypto (.advance i)).aside crypto = (s.aside crypto).step (.advance i) :=
      aside_step hcrypto s (.advance i)
    change (Machine.run (step crypto) (s.step crypto (.advance i)) _).aside crypto =
      Machine.run State.step ((s.aside crypto).step (.advance i)) _
    rw [ih, hstep]

/-- Behind a step that is not orderly, the calls under way leave a stale key whatever their order
is. -/
theorem stale_of_not_orderly {crypto : Crypto} (hcrypto : crypto.IsAead) {s : KeyStoreRun}
    {e : KeyStoreEvent} (he : ¬ s.Orderly crypto e) (order : List Nat) :
    ¬ (Machine.run (step crypto) (s.step crypto e)
      (order.map KeyStoreEvent.advance)).store.Coherent crypto := by
  rw [orderly_iff, not_forall] at he
  obtain ⟨a, ha⟩ := he
  rw [Classical.not_imp] at ha
  obtain ⟨ha, hbad⟩ := ha
  obtain ⟨p, hp⟩ := exists_not_settling hbad
  intro hcoherent
  have hat := (coherent_iff crypto).mp hcoherent p
  rw [aside_run_advance hcrypto, aside_step hcrypto, ha] at hat
  exact not_settling_run hp order (.inl hat)

/-- In a run of orderly steps the cache is coherent whenever all calls have finished, and a lookup
answers what the table has. A step that is not orderly leaves a stale key, however the calls that
are under way go on. -/
theorem coherent_when_orderly {crypto : Crypto} (hcrypto : crypto.IsAead) {store : KeyStore}
    (hstore : store.Coherent crypto) (events : List KeyStoreEvent) :
    (Machine.Throughout (step crypto) (Orderly crypto) ⟨store, []⟩ events →
      ∀ front back, events = front ++ back →
        (Machine.run (step crypto) ⟨store, []⟩ front).calls = [] →
          (Machine.run (step crypto) ⟨store, []⟩ front).store.Coherent crypto ∧
          ∀ p, ((Machine.run (step crypto) ⟨store, []⟩ front).store.get crypto p).1 =
            (Machine.run (step crypto) ⟨store, []⟩ front).store.load crypto p) ∧
    ∀ front e back, events = front ++ e :: back →
      ¬ (Machine.run (step crypto) ⟨store, []⟩ front).Orderly crypto e →
        ∀ order : List Nat,
          ¬ (Machine.run (step crypto) ⟨store, []⟩
            (front ++ e :: order.map KeyStoreEvent.advance)).store.Coherent crypto := by
  constructor
  · intro hrun front back hevents hcalls
    rw [hevents] at hrun
    have hfront := (Machine.throughout_append.mp hrun).1
    have hsettling := Machine.run_invariant
      (I := fun s => ∀ p, (s.aside crypto).Settling p) (settling_step hcrypto)
      (fun p => .inl ((coherent_iff crypto).mp hstore p)) hfront
    have hcoherent : (Machine.run (step crypto) ⟨store, []⟩ front).store.Coherent crypto := by
      apply (coherent_iff crypto).mpr
      intro p
      exact coherentAt_of_settling (hsettling p) hcalls
    exact ⟨hcoherent, hcoherent.get⟩
  · intro front e back _ he order
    rw [Machine.run_append]
    exact stale_of_not_orderly hcrypto he order

end KeyStoreRun

/-- A store without rows, as it is at the first start. -/
def freshKeyStore : KeyStore where
  db _ := .ok none
  cache _ := none
  cipher := taggedCrypto.expand [] ""

theorem freshKeyStore_coherent : freshKeyStore.Coherent taggedCrypto :=
  ⟨nofun, fun _ _ => rfl⟩

def sampleNonce : Nonce := ⟨sampleNonces 0, by decide⟩

namespace KeyStoreRun

/-- A key is replaced while it is being stored. -/
def replacement : List KeyStoreEvent :=
  [.set "openai" "sk-alpha" sampleNonce (.ok ()), .set "openai" "sk-beta" sampleNonce (.ok ()),
    .advance 0, .advance 0]

/-- The old key is put into the cache after the new one is in the table, and is mended there. -/
theorem coherent_when_orderly_replaced :
    let s := Machine.run (step taggedCrypto) ⟨freshKeyStore, []⟩ replacement
    s.store.Coherent taggedCrypto ∧
      (s.store.get taggedCrypto "openai").1 = .ok (some "sk-beta") := by
  have hload (store : KeyStore) := KeyStore.load_putRow_some taggedCrypto_isAead store "openai"
    "sk-beta" sampleNonce
  have horderly : Machine.Throughout (step taggedCrypto) (Orderly taggedCrypto)
      ⟨freshKeyStore, []⟩ replacement := by
    refine ⟨trivial, trivial, ?_, ?_, trivial⟩
    · intro p key hcall
      cases hcall
      exact .inr ⟨.keep "openai" "sk-beta", List.mem_cons_self, rfl, hload _⟩
    · intro p key hcall
      cases hcall
      exact .inl (hload _)
  obtain ⟨hcoherent, hget⟩ := (coherent_when_orderly taggedCrypto_isAead freshKeyStore_coherent
    replacement).1 horderly replacement [] rfl rfl
  refine ⟨hcoherent, ?_⟩
  rw [hget]
  exact hload _

/-- A key is stored and deleted at once; the later call is the first at the cache. The key is
used again although its row is gone. -/
theorem deleted_key_kept :
    let s := Machine.run (step taggedCrypto) ⟨freshKeyStore, []⟩
      [.set "openai" "sk-alpha" sampleNonce (.ok ()), .delete "openai" (.ok ()), .advance 1,
        .advance 0]
    s.calls = [] ∧ s.store.db "openai" = .ok none ∧
      (s.store.get taggedCrypto "openai").1 = .ok (some "sk-alpha") ∧
      ¬ s.store.Coherent taggedCrypto := by
  refine ⟨rfl, rfl, rfl, ?_⟩
  intro hcoherent
  have hcache := hcoherent.noRow "openai" rfl
  cases hcache

end KeyStoreRun

end TokenDealer
