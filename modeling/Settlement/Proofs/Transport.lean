import Settlement.Proofs.Refusal
import Settlement.Proofs.RoundTrip

/-!
# Envelopes carry messages

A message is put into an envelope by the names of its route and its record, and is read from there by
looking the names up among all routes and reading the record as that route says. The two agree because no
two routes have the same names, every message has a route, and what a route reads is a message of that
route. So an envelope made from a message is delivered as the message itself.

Results:
* `Route.find?_eq_some_iff`, `Route.find?_eq_none_iff`: a look-up finds the route of two names, if any.
* `Route.route_of_read`: what a route reads is a message of that route.
* `Envelope.transports`: envelopes and messages agree.
-/
namespace Settlement

/-! ## Routes -/

theorem exists_of_map_ok {ε α β : Type} {x : Except ε α} {f : α → β} {b : β} (h : x.map f = .ok b) :
    ∃ a, x = .ok a ∧ f a = b := by
  cases x with
  | ok a => exact ⟨a, rfl, Except.ok.inj h⟩
  | error e => cases h

namespace Route

variable {module operation : String} {r s : Route}

theorem mem_all (r : Route) : r ∈ all := by
  cases r <;> decide

/-- No two routes have the same names. -/
theorem eq_of_names (hm : r.module = s.module) (ho : r.operation = s.operation) : r = s := by
  revert hm ho
  cases r <;> cases s <;> decide

theorem names_of_find? (h : find? module operation = some r) :
    r.module = module ∧ r.operation = operation := by
  have hr := List.find?_some h
  exact of_decide_eq_true hr

theorem find?_eq_some_iff :
    find? module operation = some r ↔ (r.module, r.operation) = (module, operation) := by
  rw [Prod.mk.injEq]
  refine ⟨names_of_find?, ?_⟩
  rintro ⟨rfl, rfl⟩
  cases h : find? r.module r.operation with
  | none =>
    have hno := List.find?_eq_none.1 h r r.mem_all
    exact absurd (decide_eq_true ⟨rfl, rfl⟩) hno
  | some s =>
    obtain ⟨hm, ho⟩ := names_of_find? h
    rw [eq_of_names hm ho]

theorem find?_eq_none_iff :
    find? module operation = none ↔ ∀ r : Route, (r.module, r.operation) ≠ (module, operation) := by
  rw [Option.eq_none_iff_forall_ne_some]
  exact forall_congr' fun r => not_congr find?_eq_some_iff

/-- What a route reads is a message of that route. -/
theorem route_of_read {payload : Bytes} {m : Message} (h : r.read payload = .ok m) :
    m.route = r := by
  cases r <;> obtain ⟨a, -, rfl⟩ := exists_of_map_ok h <;> rfl

end Route

theorem Message.exists_route (r : Route) : ∃ m : Message, m.route = r := by
  have nothing : Coin := ⟨"", 0⟩
  have nobody : Address := ⟨""⟩
  have nameless : EscrowId := ⟨""⟩
  cases r with
  | birth => exact ⟨.birth ⟨nothing, nobody⟩, rfl⟩
  | spend => exact ⟨.spend ⟨{ inputs := [], outputs := [] }, nobody⟩, rfl⟩
  | addContract => exact ⟨.addContract ⟨nothing, .zero, 0, nobody, nobody⟩, rfl⟩
  | redeemContract => exact ⟨.redeemContract ⟨[], nobody⟩, rfl⟩
  | failContract => exact ⟨.failContract ⟨.zero, nobody⟩, rfl⟩
  | initEscrow => exact ⟨.initEscrow ⟨nameless, nothing, nobody, nothing, nobody⟩, rfl⟩
  | abortEscrow => exact ⟨.abortEscrow ⟨nameless, nobody⟩, rfl⟩
  | joinEscrow => exact ⟨.joinEscrow ⟨nameless, nobody, nothing⟩, rfl⟩
  | spendEscrow => exact ⟨.spendEscrow ⟨nameless, nothing, nobody, nobody, nobody⟩, rfl⟩

/-! ## Envelopes -/

namespace Envelope

theorem read_ofMessage (m : Message) : (ofMessage m).read = .ok m := by
  have hfind : Route.find? m.route.module m.route.operation = some m.route :=
    Route.find?_eq_some_iff.2 rfl
  simp only [read, ofMessage, hfind, m.read_payload, mapError_ok_eq]

/-- A message in an envelope is of the route that the envelope names. -/
theorem route_of_read {e : Envelope} {m : Message} (h : e.read = .ok m) :
    (m.route.module, m.route.operation) = (e.module, e.operation) := by
  unfold read at h
  split at h
  · cases h
  · rename_i r hr
    rw [Route.route_of_read (mapError_eq_ok_iff.1 h)]
    exact Route.find?_eq_some_iff.1 hr

/-- An envelope names an unknown operation exactly if no route has its names, whatever is in it. -/
theorem read_unknown_iff {e : Envelope} {module operation : String} :
    e.read = .error (.unknownOperation module operation) ↔
      (module, operation) = (e.module, e.operation) ∧
        ∀ r : Route, (r.module, r.operation) ≠ (e.module, e.operation) := by
  rw [← Route.find?_eq_none_iff]
  unfold read
  cases Route.find? e.module e.operation with
  | none => simp [eq_comm]
  | some r =>
    simp only [reduceCtorEq, and_false, iff_false]
    intro h
    obtain ⟨fault, -, he⟩ := mapError_error h
    cases he

/-- Envelopes and messages agree. A message is read back from its envelope; a message that is read is of
the route that its envelope names; an envelope is refused for its names exactly if no message has a route of
these names, whatever its payload; and the envelope of a message is delivered as the message, in any block
and any ledger, with the same outcome and the same records, accounts and events afterwards. -/
theorem transports :
    (∀ m, (ofMessage m).read = .ok m) ∧
    (∀ (e : Envelope) (m : Message), e.read = .ok m →
      (m.route.module, m.route.operation) = (e.module, e.operation)) ∧
    (∀ e : Envelope, (∃ module operation, e.read = .error (.unknownOperation module operation)) ↔
      ∀ m : Message, (m.route.module, m.route.operation) ≠ (e.module, e.operation)) ∧
    (∀ rules block m l,
      Ledger.deliverEnvelope rules block (ofMessage m) l = Ledger.deliver rules block m l) := by
  refine ⟨read_ofMessage, fun e m h => route_of_read h, fun e => ?_, fun rules block m l => ?_⟩
  · have hroutes : (∀ m : Message, (m.route.module, m.route.operation) ≠ (e.module, e.operation)) ↔
        ∀ r : Route, (r.module, r.operation) ≠ (e.module, e.operation) := by
      refine ⟨fun h r => ?_, fun h m => h m.route⟩
      obtain ⟨m, rfl⟩ := Message.exists_route r
      exact h m
    rw [hroutes]
    constructor
    · rintro ⟨module, operation, h⟩
      exact (read_unknown_iff.1 h).2
    · intro h
      exact ⟨e.module, e.operation, read_unknown_iff.2 ⟨rfl, h⟩⟩
  · rw [Ledger.deliverEnvelope, read_ofMessage]

end Envelope

end Settlement
