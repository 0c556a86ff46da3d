import Mathlib.Data.List.Basic
import TokenDealer.EventStream
import TokenDealer.InBandErrors

set_option autoImplicit true

namespace TokenDealer

open Json Incremental EventStream

/-- The bytes of an event with one data line. -/
def eventBytes (payload : String) : List UInt8 := Utf8.encode ("data: " ++ payload).toList

/-- A stream as most servers write it: an event for each payload, closed by a blank line. -/
def streamBytes (payloads : List String) : List UInt8 :=
  payloads.flatMap fun payload => eventBytes payload ++ [newline, newline]

theorem unbroken_data {payload : String} (h : Unbroken payload) : Unbroken ("data: " ++ payload) :=
  .append ⟨by decide, by decide⟩ h

theorem newline_not_mem {payload : String} (h : Unbroken payload) :
    newline ∉ eventBytes payload := by
  intro hmem
  exact (unbroken_data h).feed (Utf8.mem_of_mem_encode hmem (by decide))

theorem blocks_streamBytes {payloads : List String} (h : ∀ p ∈ payloads, Unbroken p) :
    Blocks newline (streamBytes payloads) (payloads.map eventBytes) [] where
  layout := by
    rw [List.append_nil, List.flatMap_map]
    rfl
  closed := by
    intro block hblock
    obtain ⟨p, hp, rfl⟩ := List.mem_map.mp hblock
    rw [pair_infix_body (newline_not_mem (h p hp))]
    exact not_pair_infix_short Nat.one_lt_two
  unclosed := not_pair_infix_short (by decide)

namespace StreamMachine

variable (m : StreamMachine) (text : Json.Text)

theorem dataValue_payload {payload : String} (h : payload ≠ "[DONE]") :
    m.dataValue text ("data: " ++ payload) = text.parse payload := by
  have hdone : ¬ (m.skipsDone && decide (payload = "[DONE]")) = true := by
    rw [decide_eq_false h, Bool.and_false]
    exact Bool.false_ne_true
  rw [dataValue, Str.stripPrefix_append]
  exact if_neg hdone

theorem eventValues_eventBytes {payload : String} (hline : Unbroken payload)
    (hdone : payload ≠ "[DONE]") :
    m.eventValues text (eventBytes payload) = (text.parse payload).toList := by
  have hunbroken := unbroken_data hline
  have hne : ("data: " ++ payload).toList ≠ [] := by
    rw [String.toList_append]
    exact List.cons_ne_nil _ _
  have hlines : Str.lines ("data: " ++ payload) = ["data: " ++ payload] := by
    rw [Str.lines, lineList_unbroken hunbroken.feed hunbroken.carriage hne, List.map_singleton,
      String.ofList_toList]
  rw [eventValues, eventBytes, Utf8.lossyString_encode, hlines, List.filterMap_cons,
    dataValue_payload m text hdone]
  cases text.parse payload <;> rfl

/-- A stream has the values of its payloads, however it is cut. -/
theorem values_streamBytes {payloads : List String} (hlines : ∀ p ∈ payloads, Unbroken p)
    (hdone : ∀ p ∈ payloads, p ≠ "[DONE]") {input : List (AppResult (List UInt8))}
    (hinput : (received input).flatten = streamBytes payloads) :
    m.values text input = payloads.filterMap text.parse := by
  have hdrain : drainEvents (streamBytes payloads) = (payloads.map eventBytes, []) :=
    Option.some.inj ((drain_newline _).symm.trans (blocks_streamBytes hlines).drain)
  rw [values, hinput, hdrain, List.filterMap_eq_flatMap_toList, List.flatMap_map]
  exact List.flatMap_congr fun p hp => eventValues_eventBytes m text (hlines p hp) (hdone p hp)

end StreamMachine

/-- A stream of sources that a library knows has their values. -/
theorem StreamMachine.values_known (m : StreamMachine) (print : Value → String)
    {known : List (String × Value)} (hnodup : (known.map Prod.fst).Nodup)
    (hlines : ∀ e ∈ known, Unbroken e.1) (hdone : ∀ e ∈ known, e.1 ≠ "[DONE]") :
    m.values (.knowing print known) [.ok (streamBytes (known.map Prod.fst))] =
      known.map Prod.snd := by
  have hget : ∀ e ∈ known, ((Json.Text.knowing print known).parse ∘ Prod.fst) e = some e.2 :=
    fun e he => Table.get_of_mem hnodup he
  have hinput : (received [.ok (streamBytes (known.map Prod.fst))]).flatten =
      streamBytes (known.map Prod.fst) := List.append_nil _
  have hvalues := m.values_streamBytes (.knowing print known)
    (List.forall_mem_map.mpr hlines) (List.forall_mem_map.mpr hdone) hinput
  rw [hvalues, List.filterMap_map, List.filterMap_congr hget]
  exact congrFun List.filterMap_eq_map' known

end TokenDealer
