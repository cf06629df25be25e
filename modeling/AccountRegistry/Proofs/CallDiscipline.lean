import AccountRegistry.Memory.World

/-!
# Which capabilities each operation calls

The account services are written over any monad. Here they run against capabilities of
arbitrary behaviour: an identity provider and a store given as state-passing functions on a
state `σ` of their own, wrapped so that every call is recorded, with its arguments, before it
runs (`AccountService.recorded`).

- one run equation per operation (`create_run`, `update_run`, …): what it returns, what it
  leaves in the capabilities' state, which calls it made and which events it logged;
- **the call discipline** (`calls_stop_at_first_failure`): each operation makes exactly its
  calls, in order, with the caller's context, the first failure ends it and is returned
  classified and attributed to the service; a malformed tax id ends it before any call.
-/

set_option autoImplicit false

namespace AccountRegistry

open Memory

/-! ## Recorded capabilities -/

/-- The capabilities' own state, the calls made so far and the events logged so far. -/
structure Recording (σ : Type) where
  inner : σ
  calls : List Call := []
  events : List LogEvent := []

/-- Steps against recorded capabilities. -/
abbrev Recorded (σ : Type) := StateM (Recording σ)

variable {σ : Type}

/-- Records a call, then runs the capability on its own state. -/
def Recorded.call {α : Type} (c : Call) (x : StateM σ α) : Recorded σ α := fun t =>
  let r := x.run t.inner
  (r.1, { t with inner := r.2, calls := t.calls ++ [c] })

@[simp] theorem Recorded.run_call {α : Type} (c : Call) (x : StateM σ α) (t : Recording σ) :
    (Recorded.call c x).run t = ((x.run t.inner).1, { t with inner := (x.run t.inner).2, calls := t.calls ++ [c] }) :=
  rfl

/-- The identity provider `ip`, each call recorded. -/
def IdentityProvider.recorded (ip : IdentityProvider (StateM σ)) : IdentityProvider (Recorded σ) where
  register ctx r := Recorded.call (.register ctx r) (ip.register ctx r)
  authenticate ctx t := Recorded.call (.authenticate ctx t) (ip.authenticate ctx t)
  authenticateAnonymous ctx := Recorded.call (.authenticateAnonymous ctx) (ip.authenticateAnonymous ctx)

/-- The store `st` of the accounts of kind `k`, each call recorded. -/
def AccountStore.recorded (k : AccountKind) (st : AccountStore (StateM σ)) : AccountStore (Recorded σ) where
  insert ctx a := Recorded.call (.table k (.insert ctx a)) (st.insert ctx a)
  save ctx a := Recorded.call (.table k (.save ctx a)) (st.save ctx a)
  findById ctx id := Recorded.call (.table k (.findById ctx id)) (st.findById ctx id)
  findByTaxId ctx c := Recorded.call (.table k (.findByTaxId ctx c)) (st.findByTaxId ctx c)
  ping := Recorded.call (.table k .ping) st.ping

/-- A journal that keeps the events; spans do not change what a step does. -/
def recordingJournal : Journal (Recorded σ) where
  emit e := modify fun t => { t with events := t.events ++ [e] }
  enclose _ x := x

/-- The service of kind `k` over recorded capabilities. -/
def AccountService.recorded (k : AccountKind) (ip : IdentityProvider (StateM σ)) (st : AccountStore (StateM σ)) :
    AccountService (Recorded σ) :=
  ⟨k, ip.recorded, st.recorded k, recordingJournal⟩

/-- What a run shows from outside: its result, the capabilities' state and the calls made. -/
def Recording.observe {α : Type} (out : α × Recording σ) : α × σ × List Call := (out.1, out.2.inner, out.2.calls)

/-- Binding in the identity monad applies the continuation. -/
@[simp] theorem id_bind_apply {α β : Type} (a : Id α) (f : α → Id β) : a >>= f = f a.run := rfl

@[simp] theorem AccountDraft.toAccount_name (d : AccountDraft) (c : Cpf) : (d.toAccount c).name = d.name := rfl

@[simp] theorem AccountDraft.toAccount_cpf (d : AccountDraft) (c : Cpf) : (d.toAccount c).cpf = c := rfl

@[simp] theorem AccountDraft.toAccount_email (d : AccountDraft) (c : Cpf) : (d.toAccount c).email = d.email := rfl

@[simp] theorem AccountDraft.toAccount_id (d : AccountDraft) (c : Cpf) : (d.toAccount c).id = d.id := rfl

namespace AccountService

variable (k : AccountKind) (ip : IdentityProvider (StateM σ)) (st : AccountStore (StateM σ)) (ctx : CallContext)

@[simp] theorem recorded_kind : (recorded k ip st).kind = k := rfl

@[simp] theorem recorded_name : (recorded k ip st).name = k.serviceName := rfl

@[simp] theorem recorded_enclose {α : Type} (s : Span) (x : Recorded σ α) : (recorded k ip st).journal.enclose s x = x :=
  rfl

@[simp] theorem run_recorded_emit (e : LogEvent) (t : Recording σ) :
    ((recorded k ip st).journal.emit e).run t = ((), { t with events := t.events ++ [e] }) := rfl

@[simp] theorem recorded_register (r : Registration) :
    (recorded k ip st).identity.register ctx r = Recorded.call (.register ctx r) (ip.register ctx r) := rfl

@[simp] theorem recorded_authenticate (taxId : String) :
    (recorded k ip st).identity.authenticate ctx taxId =
      Recorded.call (.authenticate ctx taxId) (ip.authenticate ctx taxId) := rfl

@[simp] theorem recorded_authenticateAnonymous :
    (recorded k ip st).identity.authenticateAnonymous ctx =
      Recorded.call (.authenticateAnonymous ctx) (ip.authenticateAnonymous ctx) := rfl

@[simp] theorem recorded_insert (a : Account) :
    (recorded k ip st).store.insert ctx a = Recorded.call (.table k (.insert ctx a)) (st.insert ctx a) := rfl

@[simp] theorem recorded_save (a : Account) :
    (recorded k ip st).store.save ctx a = Recorded.call (.table k (.save ctx a)) (st.save ctx a) := rfl

@[simp] theorem recorded_findById (id : AccountId) :
    (recorded k ip st).store.findById ctx id = Recorded.call (.table k (.findById ctx id)) (st.findById ctx id) := rfl

@[simp] theorem recorded_findByTaxId (c : Cpf) :
    (recorded k ip st).store.findByTaxId ctx c = Recorded.call (.table k (.findByTaxId ctx c)) (st.findByTaxId ctx c) :=
  rfl

/-! ## One run equation per operation -/

/-- A recorded call run through `lift`: its failure is classified, attributed and logged once. -/
theorem run_lift_call {ε α : Type} [Classify ε] (c : Call) (x : StateM σ (Except ε α)) (t : Recording σ) :
    ((recorded k ip st).lift (Recorded.call c x)).run t =
      match x.run t.inner with
      | (.ok a, s) => (.ok a, { t with inner := s, calls := t.calls ++ [c] })
      | (.error e, s) =>
        let f := (Classify.classify e).attributed k.serviceName
        (.error f,
          { t with inner := s, calls := t.calls ++ [c],
                   events := t.events ++ [f.attributionEvent (f.component.getD k.serviceName)] }) := by
  rcases h : x.run t.inner with ⟨_ | a, s⟩
  · simp only [lift, fail, StateT.run_bind, Recorded.run_call, h]
    rfl
  · simp only [lift, StateT.run_bind, Recorded.run_call, h]
    rfl

theorem create_run (x : AccountDraft) (t : Recording σ) :
    ((recorded k ip st).create ctx x).run t =
      match Cpf.parse x.cpf with
      | .error e =>
        let f := (invalidCpf e).attributed k.serviceName
        (.error f, { t with events := t.events ++ [f.attributionEvent (f.component.getD k.serviceName)] })
      | .ok c =>
        let r : Registration := ⟨x.name, c, x.email, k⟩
        match (ip.register ctx r).run t.inner with
        | (.error e, s) =>
          let f := (Classify.classify e).attributed k.serviceName
          (.error f, { t with inner := s, calls := t.calls ++ [.register ctx r],
                              events := t.events ++ [f.attributionEvent (f.component.getD k.serviceName)] })
        | (.ok (), s) =>
          let calls := t.calls ++ [.register ctx r, .table k (.insert ctx (x.toAccount c))]
          match (st.insert ctx (x.toAccount c)).run s with
          | (.error e, s') =>
            let f := e.classify.attributed k.serviceName
            (.error f, { t with inner := s', calls := calls, events := t.events ++ [orphanEvent f c ctx] })
          | (.ok id, s') => (.ok id, { t with inner := s', calls := calls, events := t.events ++ [createdEvent id c] }) := by
  rcases hp : Cpf.parse x.cpf with e | c
  · simp only [create, hp]
    rfl
  · rcases hr : (ip.register ctx ⟨x.name, c, x.email, k⟩).run t.inner with ⟨_ | ⟨⟩, s⟩
    · simp only [create, hp, recorded_enclose, recorded_kind, StateT.run_bind, recorded_register,
        AccountDraft.toAccount_name, AccountDraft.toAccount_cpf, AccountDraft.toAccount_email, run_lift_call, hr]
      rfl
    -- the registration succeeded: the insert decides between the orphan event and the created one
    · rcases hi : (st.insert ctx (x.toAccount c)).run s with ⟨_ | id, s'⟩ <;>
      simp only [create, hp, recorded_enclose, recorded_kind, StateT.run_bind, recorded_register,
        AccountDraft.toAccount_name, AccountDraft.toAccount_cpf, AccountDraft.toAccount_email, run_lift_call, hr,
        id_bind_apply, Id.run, recorded_insert, Recorded.run_call, hi, run_recorded_emit, recorded_name,
        StateT.run_pure, List.append_assoc, List.cons_append, List.nil_append] <;>
      rfl

theorem update_run (x : AccountDraft) (t : Recording σ) :
    ((recorded k ip st).update ctx x).run t =
      match Cpf.parse x.cpf with
      | .error e =>
        let f := (invalidCpf e).attributed k.serviceName
        (.error f, { t with events := t.events ++ [f.attributionEvent (f.component.getD k.serviceName)] })
      | .ok c =>
        ((recorded k ip st).lift (Recorded.call (.table k (.save ctx (x.toAccount c))) (st.save ctx (x.toAccount c)))).run t := by
  rcases hp : Cpf.parse x.cpf with e | c
  · simp only [update, hp]
    rfl
  · simp only [update, hp, recorded_enclose, recorded_save]

theorem getById_run (id : AccountId) (t : Recording σ) :
    ((recorded k ip st).getById ctx id).run t =
      ((recorded k ip st).lift (Recorded.call (.table k (.findById ctx id)) (st.findById ctx id))).run t := rfl

theorem getByTaxId_run (taxId : String) (t : Recording σ) :
    ((recorded k ip st).getByTaxId ctx taxId).run t =
      match Cpf.parse taxId with
      | .error e =>
        let f := (invalidCpf e).attributed k.serviceName
        (.error f, { t with events := t.events ++ [f.attributionEvent (f.component.getD k.serviceName)] })
      | .ok c => ((recorded k ip st).lift (Recorded.call (.table k (.findByTaxId ctx c)) (st.findByTaxId ctx c))).run t := by
  rcases hp : Cpf.parse taxId with e | c
  · simp only [getByTaxId, hp]
    rfl
  · simp only [getByTaxId, hp, recorded_enclose, recorded_findByTaxId]

theorem login_run (taxId : String) (t : Recording σ) :
    ((recorded k ip st).login ctx taxId).run t =
      ((recorded k ip st).lift (Recorded.call (.authenticate ctx taxId) (ip.authenticate ctx taxId))).run t := rfl

theorem loginAnonymous_run (t : Recording σ) :
    ((recorded k ip st).loginAnonymous ctx).run t =
      ((recorded k ip st).lift (Recorded.call (.authenticateAnonymous ctx) (ip.authenticateAnonymous ctx))).run t := rfl

/-- Seen from outside, a recorded call through `lift` gives the call's result with its failure
classified and attributed, and adds the call to the record. -/
theorem observe_lift_call {ε α : Type} [Classify ε] (c : Call) (x : StateM σ (Except ε α)) (t : Recording σ) :
    Recording.observe (((recorded k ip st).lift (Recorded.call c x)).run t) =
      ((x.run t.inner).1.mapError fun e => (Classify.classify e).attributed k.serviceName, (x.run t.inner).2,
        t.calls ++ [c]) := by
  rw [run_lift_call]
  rcases x.run t.inner with ⟨_ | a, s⟩ <;> rfl

/-- **The call discipline**: each operation makes exactly its calls, in order, each on the state
the previous one left, and the first failure ends it, classified and attributed to the service. -/
theorem calls_stop_at_first_failure (t : Recording σ) :
    let svc := recorded k ip st
    let blame (f : Failure) : Failure := f.attributed k.serviceName
    let invalid (e : CpfError) : Failure := ⟨.validation, 400, "Invalid CPF: " ++ e.message, some k.serviceName⟩
    (∀ x : AccountDraft, Recording.observe ((svc.create ctx x).run t) =
      match Cpf.parse x.cpf with
      | .error e => (.error (invalid e), t.inner, t.calls)
      | .ok c =>
        let r : Registration := ⟨x.name, c, x.email, k⟩
        match (ip.register ctx r).run t.inner with
        | (.error e, s) => (.error (blame e.classify), s, t.calls ++ [.register ctx r])
        | (.ok (), s) =>
          let (res, s') := (st.insert ctx (x.toAccount c)).run s
          (res.mapError (blame ·.classify), s', t.calls ++ [.register ctx r, .table k (.insert ctx (x.toAccount c))])) ∧
    (∀ x : AccountDraft, Recording.observe ((svc.update ctx x).run t) =
      match Cpf.parse x.cpf with
      | .error e => (.error (invalid e), t.inner, t.calls)
      | .ok c =>
        let (res, s) := (st.save ctx (x.toAccount c)).run t.inner
        (res.mapError (blame ·.classify), s, t.calls ++ [.table k (.save ctx (x.toAccount c))])) ∧
    (∀ id : AccountId, Recording.observe ((svc.getById ctx id).run t) =
      let (res, s) := (st.findById ctx id).run t.inner
      (res.mapError (blame ·.classify), s, t.calls ++ [.table k (.findById ctx id)])) ∧
    (∀ taxId : String, Recording.observe ((svc.getByTaxId ctx taxId).run t) =
      match Cpf.parse taxId with
      | .error e => (.error (invalid e), t.inner, t.calls)
      | .ok c =>
        let (res, s) := (st.findByTaxId ctx c).run t.inner
        (res.mapError (blame ·.classify), s, t.calls ++ [.table k (.findByTaxId ctx c)])) ∧
    (∀ taxId : String, Recording.observe ((svc.login ctx taxId).run t) =
      let (res, s) := (ip.authenticate ctx taxId).run t.inner
      (res.mapError (blame ·.classify), s, t.calls ++ [.authenticate ctx taxId])) ∧
    Recording.observe ((svc.loginAnonymous ctx).run t) =
      let (res, s) := (ip.authenticateAnonymous ctx).run t.inner
      (res.mapError (blame ·.classify), s, t.calls ++ [.authenticateAnonymous ctx]) := by
  dsimp only
  refine ⟨fun x => ?_, fun x => ?_, fun id => observe_lift_call k ip st _ _ t, fun taxId => ?_,
    fun taxId => observe_lift_call k ip st _ _ t, observe_lift_call k ip st _ _ t⟩
  · rcases hp : Cpf.parse x.cpf with e | c
    · simp only [create_run, hp]
      rfl
    · rcases hr : (ip.register ctx ⟨x.name, c, x.email, k⟩).run t.inner with ⟨_ | ⟨⟩, s⟩
      · simp only [create_run, hp, hr]
        rfl
      · rcases hi : (st.insert ctx (x.toAccount c)).run s with ⟨_ | id, s'⟩ <;>
        simp only [create_run, hp, hr, hi] <;>
        rfl
  · rcases hp : Cpf.parse x.cpf with e | c
    · simp only [update_run, hp]
      rfl
    · simp only [update_run, hp]
      exact observe_lift_call k ip st _ _ t
  · rcases hp : Cpf.parse taxId with e | c
    · simp only [getByTaxId_run, hp]
      rfl
    · simp only [getByTaxId_run, hp]
      exact observe_lift_call k ip st _ _ t

end AccountService

end AccountRegistry
