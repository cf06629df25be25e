import AccountRegistry.Proofs.CallDiscipline

/-!
# Each failure is reported once

The error tracker sees the warning and error events. An account service logs a failure where it
classifies it: `fail` classifies, attributes and logs it with one event; a failed insert after a
successful registration is logged by the orphan event instead, since the identity it leaves
behind needs reconciling. Against capabilities of any behaviour (`AccountService.recorded`):

- each operation that succeeds logs no warning or error, and each that fails exactly one
  (`ReportsOnce`, one lemma per operation);
- that event is at error level exactly when the failure is the server's fault and names its
  kind; it is the attribution event, which names the service, the status and the message, or,
  for an insert that failed after the registration, the orphan event, which shows the tax id
  only masked and carries the request id;
- attribution logs one event, naming the component the failure already carried, if any
  (`failures_reported_once`).
-/

set_option autoImplicit false

namespace AccountRegistry

open Memory

/-- Whether an event reaches the error tracker: a warning or an error. -/
def LogEvent.alarming (e : LogEvent) : Bool := e.level == .warn || e.level == .error

/-! ## The two alarms -/

section Events

variable (f : Failure)

/-- The attribution event whole: at error level and "Request failed" for the server's faults,
else at warning level and "Request rejected", naming the kind, the component, the status and
the message. -/
theorem attributionEvent_eq (s : String) :
    f.attributionEvent s =
      { level := if f.kind.isServerError then .error else .warn, target := attributionTarget,
        message := if f.kind.isServerError then "Request failed" else "Request rejected",
        fields := [("kind", .shown f.kind.name), ("component", .shown s), ("status", .count f.status),
          ("error", .shown f.message)] } := by
  unfold Failure.attributionEvent
  split <;> rfl

/-- The orphan event whole: its level and the verb of its message follow the failure's kind;
it shows the tax id only masked and carries the request id. -/
theorem orphanEvent_eq (c : Cpf) (ctx : CallContext) :
    AccountService.orphanEvent f c ctx =
      { level := if f.kind.isServerError then .error else .warn, target := AccountService.target,
        message := if f.kind.isServerError then
            "Identity registered but account insert failed; remote identity is orphaned"
          else "Identity registered but account insert rejected; remote identity is orphaned",
        fields := [("kind", .shown f.kind.name), ("cpf", .shown c.masked),
          ("request_id", .text (ctx.requestId.getD "")), ("error", .shown f.message)] } := by
  unfold AccountService.orphanEvent
  split <;> rfl

theorem alarming_of_level {e : LogEvent} (h : e.level = if f.kind.isServerError then .error else .warn) :
    e.alarming = true := by
  rw [LogEvent.alarming, h]
  split <;> rfl

@[simp] theorem alarming_attributionEvent (s : String) : (f.attributionEvent s).alarming = true := by
  rw [attributionEvent_eq]
  exact alarming_of_level f rfl

@[simp] theorem alarming_orphanEvent (c : Cpf) (ctx : CallContext) :
    (AccountService.orphanEvent f c ctx).alarming = true := by
  rw [orphanEvent_eq]
  exact alarming_of_level f rfl

@[simp] theorem alarming_createdEvent (id : AccountId) (c : Cpf) :
    (AccountService.createdEvent id c).alarming = false := rfl

end Events

/-! ## Attribution -/

section Attribution

variable (f : Failure) (s : String)

/-- The component attribution names is the one the failure carried, else the one given. -/
theorem component_getD_attributed : (f.attributed s).component.getD s = f.component.getD s := by
  unfold Failure.attributed
  split <;> simp_all

theorem attributed_component_of_none (h : f.component = none) : (f.attributed s).component = some s := by
  simp [Failure.attributed, h]

theorem attributeTo_eq : f.attributeTo s = (f.attributed s, (f.attributed s).attributionEvent (f.component.getD s)) := by
  rw [Failure.attributeTo, component_getD_attributed]

@[simp] theorem IdentityFailure.component_classify (e : IdentityFailure) : (Classify.classify e).component = none :=
  rfl

@[simp] theorem StoreFailure.component_classify (e : StoreFailure) : (Classify.classify e).component = none := by
  cases e <;> rfl

@[simp] theorem AccountService.component_invalidCpf (e : CpfError) : (AccountService.invalidCpf e).component = none :=
  rfl

end Attribution

/-! ## Reports of a run -/

variable {σ : Type}

/-- A run from the record `t` to `out` reported its outcome once: of the events it appended,
none is alarming when it succeeded, and only `alarm f` when it failed with `f`. -/
def ReportsOnce {α : Type} (t : Recording σ) (out : Except Failure α × Recording σ) (alarm : Failure → LogEvent) :
    Prop :=
  ∃ evs, out.2.events = t.events ++ evs ∧
    match out.1 with
    | .ok _ => evs.filter LogEvent.alarming = []
    | .error f => evs.filter LogEvent.alarming = [alarm f]

theorem ReportsOnce.error_single {α : Type} {t : Recording σ} {r : Recording σ} {f : Failure} {alarm : Failure → LogEvent}
    {ev : LogEvent} (he : alarm f = ev) (hr : r.events = t.events ++ [ev]) (ha : ev.alarming = true) :
    ReportsOnce t ((.error f : Except Failure α), r) alarm :=
  ⟨[ev], hr, by simp [ha, he]⟩

theorem ReportsOnce.ok_quiet {α : Type} {t : Recording σ} {r : Recording σ} {a : α} {alarm : Failure → LogEvent}
    {evs : List LogEvent} (hr : r.events = t.events ++ evs) (hq : ∀ e ∈ evs, e.alarming = false) :
    ReportsOnce t ((.ok a : Except Failure α), r) alarm :=
  ⟨evs, hr, List.filter_eq_nil_iff.mpr fun e he => by simp [hq e he]⟩

namespace AccountService

variable (k : AccountKind) (ip : IdentityProvider (StateM σ)) (st : AccountStore (StateM σ)) (ctx : CallContext)

/-- Classifying a failure through the service logs the one event attribution gives. -/
theorem run_fail {ε : Type} [Classify ε] (e : ε) (t : Recording σ) :
    ((recorded k ip st).fail e).run t =
      (((Classify.classify e).attributeTo k.serviceName).1,
        { t with events := t.events ++ [((Classify.classify e).attributeTo k.serviceName).2] }) := rfl

/-- The report of a failure the service classified itself. -/
abbrev attributedAlarm (f : Failure) : LogEvent := f.attributionEvent k.serviceName

/-- A capability call whose failures carry no component reports its failure by the attribution
event of the service. -/
theorem reportsOnce_lift_call {ε α : Type} [Classify ε] (hraw : ∀ e : ε, (Classify.classify e).component = none)
    (c : Call) (x : StateM σ (Except ε α)) (t : Recording σ) :
    ReportsOnce t (((recorded k ip st).lift (Recorded.call c x)).run t) (attributedAlarm k) := by
  rw [run_lift_call]
  rcases x.run t.inner with ⟨_ | a, s⟩
  · dsimp only
    apply ReportsOnce.error_single rfl _ (alarming_attributionEvent _ _)
    rw [attributed_component_of_none _ _ (hraw _)]
    rfl
  · exact ReportsOnce.ok_quiet (List.append_nil t.events).symm (by simp)

theorem reportsOnce_invalidCpf {α : Type} (e : CpfError) (t : Recording σ) :
    let f := (invalidCpf e).attributed k.serviceName
    ReportsOnce t ((.error f : Except Failure α), { t with events := t.events ++ [f.attributionEvent (f.component.getD k.serviceName)] })
      (attributedAlarm k) := by
  intro f
  apply ReportsOnce.error_single rfl _ (alarming_attributionEvent _ _)
  rw [attributed_component_of_none _ _ (component_invalidCpf e)]
  rfl

theorem reportsOnce_update (x : AccountDraft) (t : Recording σ) :
    ReportsOnce t (((recorded k ip st).update ctx x).run t) (attributedAlarm k) := by
  rw [update_run]
  rcases Cpf.parse x.cpf with e | c
  · exact reportsOnce_invalidCpf k e t
  · exact reportsOnce_lift_call k ip st StoreFailure.component_classify _ _ t

theorem reportsOnce_getById (id : AccountId) (t : Recording σ) :
    ReportsOnce t (((recorded k ip st).getById ctx id).run t) (attributedAlarm k) := by
  rw [getById_run]
  exact reportsOnce_lift_call k ip st StoreFailure.component_classify _ _ t

theorem reportsOnce_getByTaxId (taxId : String) (t : Recording σ) :
    ReportsOnce t (((recorded k ip st).getByTaxId ctx taxId).run t) (attributedAlarm k) := by
  rw [getByTaxId_run]
  rcases Cpf.parse taxId with e | c
  · exact reportsOnce_invalidCpf k e t
  · exact reportsOnce_lift_call k ip st StoreFailure.component_classify _ _ t

theorem reportsOnce_login (taxId : String) (t : Recording σ) :
    ReportsOnce t (((recorded k ip st).login ctx taxId).run t) (attributedAlarm k) := by
  rw [login_run]
  exact reportsOnce_lift_call k ip st IdentityFailure.component_classify _ _ t

theorem reportsOnce_loginAnonymous (t : Recording σ) :
    ReportsOnce t (((recorded k ip st).loginAnonymous ctx).run t) (attributedAlarm k) := by
  rw [loginAnonymous_run]
  exact reportsOnce_lift_call k ip st IdentityFailure.component_classify _ _ t

/-- The report a create gives its failure: the orphan event once the registration succeeded,
the attribution event before. -/
def createAlarm (x : AccountDraft) (t : Recording σ) (f : Failure) : LogEvent :=
  match Cpf.parse x.cpf with
  | .ok c =>
    match ((ip.register ctx ⟨x.name, c, x.email, k⟩).run t.inner).1 with
    | .ok () => orphanEvent f c ctx
    | .error _ => f.attributionEvent k.serviceName
  | .error _ => f.attributionEvent k.serviceName

theorem reportsOnce_create (x : AccountDraft) (t : Recording σ) :
    ReportsOnce t (((recorded k ip st).create ctx x).run t) (createAlarm k ip ctx x t) := by
  rcases hp : Cpf.parse x.cpf with e | c
  · let f := (invalidCpf e).attributed k.serviceName
    have he : createAlarm k ip ctx x t f = attributedAlarm k f := by simp only [createAlarm, hp]
    simp only [create_run, hp]
    refine ReportsOnce.error_single he ?_ (alarming_attributionEvent _ _)
    rw [attributed_component_of_none _ _ (component_invalidCpf e)]
    rfl
  · rcases hr : (ip.register ctx ⟨x.name, c, x.email, k⟩).run t.inner with ⟨_ | ⟨⟩, s⟩
    · rename_i e
      let f := (Classify.classify e).attributed k.serviceName
      have he : createAlarm k ip ctx x t f = attributedAlarm k f := by simp only [createAlarm, hp, hr]
      simp only [create_run, hp, hr]
      refine ReportsOnce.error_single he ?_ (alarming_attributionEvent _ _)
      rw [attributed_component_of_none _ _ (IdentityFailure.component_classify _)]
      rfl
    -- the registration succeeded: the insert's failure is the orphan's to report
    · rcases hi : (st.insert ctx (x.toAccount c)).run s with ⟨_ | id, s'⟩
      · rename_i e
        let f := e.classify.attributed k.serviceName
        have he : createAlarm k ip ctx x t f = orphanEvent f c ctx := by simp only [createAlarm, hp, hr]
        simp only [create_run, hp, hr, hi]
        exact ReportsOnce.error_single he rfl (alarming_orphanEvent _ _ _)
      · simp only [create_run, hp, hr, hi]
        exact ReportsOnce.ok_quiet rfl (by simp)

/-- **Each failure is reported once**: every operation logs no warning or error when it succeeds
and exactly one when it fails, the attribution event or, after a registration, the orphan event. -/
theorem failures_reported_once (t : Recording σ) :
    let svc := recorded k ip st
    (∀ (f : Failure) (s : String),
      (f.attributionEvent s).level = (if f.kind.isServerError then .error else .warn) ∧
      (f.attributionEvent s).message = (if f.kind.isServerError then "Request failed" else "Request rejected") ∧
      (f.attributionEvent s).fields =
        [("kind", .shown f.kind.name), ("component", .shown s), ("status", .count f.status),
          ("error", .shown f.message)]) ∧
    (∀ (f : Failure) (c : Cpf),
      (orphanEvent f c ctx).level = (if f.kind.isServerError then .error else .warn) ∧
      (orphanEvent f c ctx).fields =
        [("kind", .shown f.kind.name), ("cpf", .shown c.masked), ("request_id", .text (ctx.requestId.getD "")),
          ("error", .shown f.message)]) ∧
    (∀ x : AccountDraft, ReportsOnce t ((svc.create ctx x).run t) (createAlarm k ip ctx x t)) ∧
    (∀ x : AccountDraft, ReportsOnce t ((svc.update ctx x).run t) (attributedAlarm k)) ∧
    (∀ id : AccountId, ReportsOnce t ((svc.getById ctx id).run t) (attributedAlarm k)) ∧
    (∀ taxId : String, ReportsOnce t ((svc.getByTaxId ctx taxId).run t) (attributedAlarm k)) ∧
    (∀ taxId : String, ReportsOnce t ((svc.login ctx taxId).run t) (attributedAlarm k)) ∧
    ReportsOnce t ((svc.loginAnonymous ctx).run t) (attributedAlarm k) ∧
    (∀ {ε : Type} [Classify ε] (e : ε) (component : String),
      let f := Classify.classify e
      f.attributeTo component = (f.attributed component, (f.attributed component).attributionEvent (f.component.getD component)) ∧
      (svc.fail e).run t = ((f.attributeTo k.serviceName).1, { t with events := t.events ++ [(f.attributeTo k.serviceName).2] })) := by
  intro svc
  refine ⟨fun f s => by rw [attributionEvent_eq]; exact ⟨rfl, rfl, rfl⟩,
    fun f c => by rw [orphanEvent_eq]; exact ⟨rfl, rfl⟩,
    fun x => reportsOnce_create k ip st ctx x t, fun x => reportsOnce_update k ip st ctx x t,
    fun id => reportsOnce_getById k ip st ctx id t, fun taxId => reportsOnce_getByTaxId k ip st ctx taxId t,
    fun taxId => reportsOnce_login k ip st ctx taxId t, reportsOnce_loginAnonymous k ip st ctx t, ?_⟩
  intro ε _ e component
  exact ⟨attributeTo_eq _ component, run_fail k ip st e t⟩

end AccountService

end AccountRegistry
