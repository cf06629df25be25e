import AccountRegistry.Failure.Identity
import AccountRegistry.Failure.Store
import AccountRegistry.Failure
import AccountRegistry.Http.Response

/-!
# Classification happens once

A failure is classified by the layer that understands it; the layers above only attribute it to
a component. This file shows that the taxonomy keeps that promise.

- Attribution fills an empty component and changes nothing else (`Failure.attributed_eq`), so
  attributions in turn keep the first component stamped (`Failure.foldl_attributed`), and
  attributing again what an attribution returned gives it back (`Failure.attributeTo_attributeTo`):
  `first_attribution_wins`.
- Every failure the taxonomy builds (`Failure.Issued`) carries the status of its kind, one of
  seven, and its HTTP response answers with that status and a body that names the kind, hiding
  the message of an unknown failure: `issued_failure_answers_its_status`.
-/

set_option autoImplicit false

namespace AccountRegistry

namespace Failure

/-! ## Attribution -/

section Attribution

variable (f : Failure) (c : String)

/-- Attribution fills the component when it is empty and changes nothing else. -/
theorem attributed_eq : f.attributed c = { f with component := f.component.or (some c) } := by
  obtain ⟨k, s, m, _ | x⟩ := f <;> rfl

@[simp] theorem kind_attributed : (f.attributed c).kind = f.kind := by rw [attributed_eq]

@[simp] theorem status_attributed : (f.attributed c).status = f.status := by rw [attributed_eq]

@[simp] theorem message_attributed : (f.attributed c).message = f.message := by rw [attributed_eq]

@[simp] theorem component_attributed : (f.attributed c).component = f.component.or (some c) := by
  rw [attributed_eq]

/-- A failure that names a component keeps it. -/
theorem attributed_of_isSome (h : f.component.isSome) : f.attributed c = f := by
  obtain ⟨k, s, m, _ | x⟩ := f
  · simp at h
  · rfl

/-- Attributions in turn keep the first component stamped. -/
theorem foldl_attributed (cs : List String) :
    cs.foldl attributed f = { f with component := f.component.or cs.head? } := by
  induction cs generalizing f with
  | nil => simp
  | cons c cs ih =>
    rw [List.foldl_cons, ih, attributed_eq]
    obtain ⟨k, s, m, _ | x⟩ := f <;> rfl

/-- A classified failure classifies as itself. -/
@[simp] theorem classify_eq : Classify.classify f = f := rfl

/-- Attributing what an attribution returned changes nothing: it names a component already. -/
theorem attributeTo_attributeTo (a b : String) : ((f.attributeTo a).1.attributeTo b).1 = (f.attributeTo a).1 :=
  attributed_of_isSome _ b (by simp [attributeTo])

end Attribution

end Failure

/-- **The first attribution wins**: attributing again keeps the kind, the status, the message and
the first component, and classifying a classified failure leaves it as it is. -/
theorem first_attribution_wins :
    (∀ (f : Failure) (cs : List String),
      let g := cs.foldl Failure.attributed f
      g.kind = f.kind ∧ g.status = f.status ∧ g.message = f.message ∧ g.component = f.component.or cs.head?) ∧
    (∀ f : Failure, Classify.classify f = f) ∧
    (∀ (x : IdentityFailure) (a b : String),
      ((Classify.classify ((Classify.classify x).attributeTo a).1).attributeTo b).1 =
        ((Classify.classify x).attributeTo a).1) ∧
    (∀ (x : StoreFailure) (a b : String),
      ((Classify.classify ((Classify.classify x).attributeTo a).1).attributeTo b).1 =
        ((Classify.classify x).attributeTo a).1) := by
  refine ⟨fun f cs => ?_, Failure.classify_eq, fun x a b => ?_, fun x a b => ?_⟩
  · rw [Failure.foldl_attributed]
    exact ⟨rfl, rfl, rfl, rfl⟩
  all_goals rw [Failure.classify_eq]; exact Failure.attributeTo_attributeTo _ a b

/-! ## Failures the taxonomy issues -/

namespace Failure

/-- The failures the taxonomy builds: made from a kind, classified from a provider's or a store's
failure, and attributed any number of times. -/
inductive Issued : Failure → Prop
  | make (k : FailureKind) (m : String) : Issued (make k m)
  | identity (e : IdentityFailure) : Issued (Classify.classify e)
  | store (e : StoreFailure) : Issued (Classify.classify e)
  | attributed {f : Failure} (c : String) : Issued f → Issued (f.attributed c)

/-- What attribution returns is issued. -/
theorem Issued.attributeTo {f : Failure} (h : f.Issued) (c : String) : (f.attributeTo c).1.Issued :=
  .attributed c h

/-- An issued failure carries the status of its kind. -/
theorem Issued.status_eq {f : Failure} (h : f.Issued) : f.status = f.kind.status := by
  induction h with
  | make k m => rfl
  | identity e => rfl
  | store e => cases e <;> rfl
  | attributed c _ ih => simpa using ih

end Failure

namespace FailureKind

theorem status_mem (k : FailureKind) : k.status ∈ [400, 401, 404, 409, 500, 502, 503] := by
  cases k <;> decide

theorem isServerError_iff (k : FailureKind) : k.isServerError = true ↔ 500 ≤ k.status := by
  simp [isServerError]

/-- A kind's status is a status of three digits: the response's fallback never applies to it. -/
theorem statusCode_status (k : FailureKind) : Http.Response.statusCode k.status = k.status := by
  cases k <;> rfl

end FailureKind

/-- A client sees the message of every failure but one of unknown kind. -/
theorem Http.Response.clientMessage_eq (f : Failure) :
    Http.Response.clientMessage f = if f.kind = .unknown then "Internal server error" else f.message := by
  unfold Http.Response.clientMessage
  split <;> simp_all

/-- **An issued failure answers with its kind's status**, one of seven, at least 500 exactly for the
server's faults, and with a JSON body of the kind's name and the message, hidden for an unknown kind. -/
theorem issued_failure_answers_its_status {f : Failure} (h : f.Issued) :
    f.status = f.kind.status ∧ f.status ∈ [400, 401, 404, 409, 500, 502, 503] ∧
    (f.kind.isServerError = true ↔ 500 ≤ f.status) ∧
    ∀ write : Json → String, Http.Response.ofFailure write f =
      ⟨f.status, some Http.Response.jsonType,
        write (Json.obj [("error", .str f.kind.name),
          ("message", .str (if f.kind = .unknown then "Internal server error" else f.message))])⟩ := by
  have hs := h.status_eq
  refine ⟨hs, hs ▸ f.kind.status_mem, hs ▸ f.kind.isServerError_iff, fun write => ?_⟩
  rw [Http.Response.ofFailure, hs, FailureKind.statusCode_status, Http.Response.clientMessage_eq]

/-- A store's missing row, attributed to a service, is issued and answers with its kind's status. -/
theorem store_miss_answers_its_status :
    let f := (Classify.classify StoreFailure.notFound).attributed "CustomerService"
    f.Issued ∧ f.status = f.kind.status ∧ f.status ∈ [400, 401, 404, 409, 500, 502, 503] ∧
      (f.kind.isServerError = true ↔ 500 ≤ f.status) ∧
      ∀ write : Json → String, Http.Response.ofFailure write f =
        ⟨f.status, some Http.Response.jsonType,
          write (Json.obj [("error", .str f.kind.name),
            ("message", .str (if f.kind = .unknown then "Internal server error" else f.message))])⟩ :=
  have h : Failure.Issued _ := .attributed "CustomerService" (.store .notFound)
  ⟨h, issued_failure_answers_its_status h⟩

end AccountRegistry
