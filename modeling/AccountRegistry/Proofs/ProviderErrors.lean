import AccountRegistry.Remote.World

/-!
# Sorting the identity provider's errors

The provider names each error it answers with by a code such as `NotAuthorizedException`. The
client sorts a code by its name, the code without one trailing `Exception`, compared letter by
letter; the failure keeps the full code.

- `IdentityFailure.codeName` removes exactly one trailing `Exception`, and only a real one
  (`codeName_append`, `codeName_of_forall_ne`);
- `IdentityFailure.ofCode` tries the four groups of names (`CodeGroup`) in turn (`ofCode_eq`); as
  no name is in two groups, each group's variant comes from exactly the names of the group
  (`ofCode_eq_failure_iff`) and a service error from the names of none (`ofCode_eq_service_iff`);
- each variant is classified by its own kind, with the failure's text as message
  (`classify_eq_make`);
- a failed call of the provider's client is sorted by `Remote.SdkFailure.toIdentity`: a named error
  by its code, an unnamed one as a service error of code `Unknown`, and the rest by its shape.

Main statement: `provider_error_codes_sorted`.
-/

set_option autoImplicit false

namespace AccountRegistry

namespace IdentityFailure

/-! ## The name of a code -/

section CodeName

/-- A text ends with another exactly when it is some text followed by it. -/
theorem endsWith_iff (c s : String) : c.endsWith s = true ↔ ∃ t, c = t ++ s := by
  rw [String.endsWith, String.Slice.endsWith_string_iff, String.copy_toSlice, List.suffix_iff_eq_append]
  constructor
  · intro h
    refine ⟨String.ofList (c.toList.take (c.toList.length - s.toList.length)), ?_⟩
    rw [← String.toList_inj, String.toList_append, String.toList_ofList]
    exact h.symm
  · rintro ⟨t, rfl⟩
    simp

theorem codeName_append (n : String) : codeName (n ++ "Exception") = n := by
  rw [codeName, if_pos ((endsWith_iff _ _).2 ⟨n, rfl⟩)]
  have h9 : "Exception".length = 9 := rfl
  simp only [String.toList_append, String.length_append, h9, Nat.add_sub_cancel]
  rw [List.take_left' String.length_toList, String.ofList_toList]

theorem codeName_of_forall_ne {c : String} (h : ∀ t, c ≠ t ++ "Exception") : codeName c = c := by
  rw [codeName, if_neg]
  rw [endsWith_iff]
  rintro ⟨t, ht⟩
  exact h t ht

/-- The name of a code is the code less one trailing `Exception`, when it has one. -/
theorem codeName_spec (c : String) :
    c = codeName c ++ "Exception" ∨ (codeName c = c ∧ ∀ t, c ≠ t ++ "Exception") := by
  by_cases h : ∃ t, c = t ++ "Exception"
  · obtain ⟨t, rfl⟩ := h
    exact .inl (by rw [codeName_append])
  · have h : ∀ t, c ≠ t ++ "Exception" := fun t ht => h ⟨t, ht⟩
    exact .inr ⟨codeName_of_forall_ne h, h⟩

end CodeName

/-! ## The four groups -/

/-- The groups of names a code is sorted into; a name in none of them is a service error. -/
inductive CodeGroup where
  /-- The credentials are refused. -/
  | rejected
  /-- The identity is taken. -/
  | conflict
  /-- A parameter is refused. -/
  | invalid
  /-- The caller should slow down. -/
  | throttled
  deriving DecidableEq, Repr

namespace CodeGroup

/-- The names of a group. -/
def names : CodeGroup → List String
  | rejected => ["NotAuthorized", "UserNotFound", "PasswordResetRequired", "UserNotConfirmed"]
  | conflict => ["UsernameExists", "AliasExists"]
  | invalid => ["InvalidParameter", "InvalidPassword"]
  | throttled => ["TooManyRequests", "LimitExceeded"]

/-- The failure a code of the group becomes, with its message; a conflict drops the code. -/
def failure : CodeGroup → String → String → IdentityFailure
  | rejected, c, m => .rejected c m
  | conflict, _, m => .conflict m
  | invalid, c, m => .invalid c m
  | throttled, c, m => .throttled c m

/-- The kind a failure of the group is classified as. -/
def kind : CodeGroup → FailureKind
  | rejected => .unauthorized
  | conflict => .conflict
  | invalid => .validation
  | throttled => .unavailable

/-- No name is in two groups. -/
theorem names_disjoint : ∀ g g' : CodeGroup, g ≠ g' → ∀ n ∈ g.names, n ∉ g'.names := by
  intro g g'
  cases g <;> cases g' <;> decide

/-- Two groups' failures differ. -/
theorem failure_inj {g g' : CodeGroup} {c m : String} (h : g.failure c m = g'.failure c m) : g = g' := by
  cases g <;> cases g' <;> simp_all [failure]

theorem failure_ne_service (g : CodeGroup) (c m : String) : g.failure c m ≠ .service c m := by
  cases g <;> simp [failure]

theorem kind_failure (g : CodeGroup) (c m : String) : (g.failure c m).kind = g.kind := by
  cases g <;> rfl

end CodeGroup

/-- Sorting a code tries the groups of its name in turn. -/
theorem ofCode_eq (c m : String) :
    ofCode c m =
      if codeName c ∈ CodeGroup.rejected.names then CodeGroup.rejected.failure c m
      else if codeName c ∈ CodeGroup.conflict.names then CodeGroup.conflict.failure c m
      else if codeName c ∈ CodeGroup.invalid.names then CodeGroup.invalid.failure c m
      else if codeName c ∈ CodeGroup.throttled.names then CodeGroup.throttled.failure c m
      else .service c m := by
  unfold ofCode
  split <;> simp_all [CodeGroup.names, CodeGroup.failure]

/-- A code whose name is in a group becomes that group's failure. -/
theorem ofCode_of_mem {c : String} {g : CodeGroup} (h : codeName c ∈ g.names) (m : String) :
    ofCode c m = g.failure c m := by
  -- the groups tried before `g` cannot hold its name
  have out : ∀ g', g ≠ g' → codeName c ∉ g'.names := fun g' hne => CodeGroup.names_disjoint g g' hne _ h
  rw [ofCode_eq]
  cases g with
  | rejected => rw [if_pos h]
  | conflict => rw [if_neg (out .rejected (by decide)), if_pos h]
  | invalid => rw [if_neg (out .rejected (by decide)), if_neg (out .conflict (by decide)), if_pos h]
  | throttled =>
    rw [if_neg (out .rejected (by decide)), if_neg (out .conflict (by decide)), if_neg (out .invalid (by decide)),
      if_pos h]

/-- A code whose name is in no group is a service error. -/
theorem ofCode_of_forall_not_mem {c : String} (h : ∀ g : CodeGroup, codeName c ∉ g.names) (m : String) :
    ofCode c m = .service c m := by
  rw [ofCode_eq, if_neg (h _), if_neg (h _), if_neg (h _), if_neg (h _)]

/-- Each group's failure comes from exactly the codes whose names are in the group. -/
theorem ofCode_eq_failure_iff (c m : String) (g : CodeGroup) : ofCode c m = g.failure c m ↔ codeName c ∈ g.names := by
  refine ⟨fun he => ?_, fun h => ofCode_of_mem h m⟩
  by_cases h : ∃ g' : CodeGroup, codeName c ∈ g'.names
  · obtain ⟨g', h'⟩ := h
    rw [ofCode_of_mem h'] at he
    exact CodeGroup.failure_inj he ▸ h'
  · rw [ofCode_of_forall_not_mem (fun g hg => h ⟨g, hg⟩)] at he
    exact absurd he.symm (CodeGroup.failure_ne_service g c m)

/-- A code is a service error exactly when its name is in no group. -/
theorem ofCode_eq_service_iff (c m : String) : ofCode c m = .service c m ↔ ∀ g : CodeGroup, codeName c ∉ g.names := by
  refine ⟨fun he g hg => ?_, fun h => ofCode_of_forall_not_mem h m⟩
  rw [ofCode_of_mem hg] at he
  exact CodeGroup.failure_ne_service g c m he

/-- Each failure is classified by its kind, with its text as the message. -/
theorem classify_eq_make (e : IdentityFailure) : Classify.classify e = Failure.make e.kind e.message := rfl

end IdentityFailure

open IdentityFailure in
/-- **How the provider's errors are sorted**: a code by the group its name falls in, less one
trailing `Exception`, and a failed call of the client by its shape. -/
theorem provider_error_codes_sorted :
    (∀ c m : String,
      let n := codeName c
      let e := ofCode c m
      (c = n ++ "Exception" ∨ (n = c ∧ ∀ t, c ≠ t ++ "Exception")) ∧
      (∀ g : CodeGroup, e = g.failure c m ↔ n ∈ g.names) ∧
      (e = .service c m ↔ ∀ g : CodeGroup, n ∉ g.names) ∧
      (∀ g : CodeGroup, n ∈ g.names → Classify.classify e = Failure.make g.kind e.message) ∧
      ((∀ g : CodeGroup, n ∉ g.names) → Classify.classify e = Failure.make .remoteFailure e.message)) ∧
    (∀ (code : String) (message : Option String),
      (Remote.SdkFailure.serviceError code message).toIdentity = ofCode code (message.getD "")) ∧
    (∀ shown : String,
      (Remote.SdkFailure.unnamedServiceError shown).toIdentity = .service "Unknown" shown ∧
      (Remote.SdkFailure.constructionFailure shown).toIdentity = .request shown ∧
      (Remote.SdkFailure.dispatchFailure shown).toIdentity = .transport shown ∧
      (Remote.SdkFailure.responseError shown).toIdentity = .transport shown ∧
      Classify.classify (IdentityFailure.service "Unknown" shown) =
        Failure.make .remoteFailure (IdentityFailure.service "Unknown" shown).message ∧
      Classify.classify (IdentityFailure.request shown) = Failure.make .unknown (IdentityFailure.request shown).message ∧
      Classify.classify (IdentityFailure.transport shown) =
        Failure.make .unavailable (IdentityFailure.transport shown).message) ∧
    Remote.SdkFailure.timeoutError.toIdentity = .timeout ∧
    Classify.classify IdentityFailure.timeout = Failure.make .unavailable IdentityFailure.timeout.message := by
  refine ⟨fun c m => ?_, fun _ _ => rfl, fun _ => ⟨rfl, rfl, rfl, rfl, rfl, rfl, rfl⟩, rfl, rfl⟩
  refine ⟨codeName_spec c, ofCode_eq_failure_iff c m, ofCode_eq_service_iff c m, fun g hg => ?_, fun h => ?_⟩
  · rw [classify_eq_make, ofCode_of_mem hg, CodeGroup.kind_failure]
  · rw [classify_eq_make, ofCode_of_forall_not_mem h]
    rfl

end AccountRegistry
