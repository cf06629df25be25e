import AccountRegistry.Account
import AccountRegistry.Failure.Identity
import AccountRegistry.Failure.Store

/-!
Account services: one per account kind, over two capabilities, an identity provider and
an account store, and a journal for log events.

Every operation is a single fail-fast flow: it calls its capabilities in a fixed order
with the caller's context, the first failure ends it, and that failure is classified and
attributed to the service. A malformed tax id ends an operation before any capability is
called. A failed insert after a successful registration leaves the provider's identity in
place and is reported by one event of its own.
-/

set_option autoImplicit false

namespace AccountRegistry

/-! ## The call context

The per-call context that every capability receives: the request's identifier, if it has
one, and the time budget of the call, if it has one. A budget is kept in milliseconds
from the start of the call; a timeout too large for the monotonic clock to add leaves the
call without a budget.
-/

/-- What a call carries about the request it serves. -/
structure CallContext where
  requestId : Option String := none
  /-- Milliseconds until the deadline, when there is one. -/
  budgetMs : Option Nat := none
  deriving DecidableEq, Repr, Inhabited

namespace CallContext

/-- The largest number of seconds the monotonic clock can still add: its readings are
seconds in a signed 64-bit word, and it is taken to read well under a million seconds. -/
def clockHeadroomSecs : Nat := Nat.pow 2 63 - 1 - 1000000

/-- The context with a request identifier. -/
def withRequestId (c : CallContext) (id : String) : CallContext := { c with requestId := some id }

/-- The context with a deadline `ms` milliseconds away, unless the clock cannot add it. -/
def withTimeoutMs (c : CallContext) (ms : Nat) : CallContext :=
  if ms / 1000 > clockHeadroomSecs then c else { c with budgetMs := some ms }

/-- The context with a deadline `secs` seconds away, unless the clock cannot add it. -/
def withTimeoutSecs (c : CallContext) (secs : Nat) : CallContext :=
  if secs > clockHeadroomSecs then c else { c with budgetMs := some (secs * 1000) }

/-- Whether the call has a deadline. -/
def hasDeadline (c : CallContext) : Bool := c.budgetMs.isSome

end CallContext

/-! ## The services -/

/-- What the identity provider needs to register an account. -/
structure Registration where
  name : String
  cpf : Cpf
  email : String
  role : AccountKind
  deriving DecidableEq, Repr

/-- The identity provider's operations. -/
structure IdentityProvider (m : Type → Type) where
  register : CallContext → Registration → m (Except IdentityFailure Unit)
  authenticate : CallContext → String → m (Except IdentityFailure CredentialToken)
  authenticateAnonymous : CallContext → m (Except IdentityFailure CredentialToken)

/-- The account store's operations. -/
structure AccountStore (m : Type → Type) where
  insert : CallContext → Account → m (Except StoreFailure AccountId)
  save : CallContext → Account → m (Except StoreFailure Unit)
  findById : CallContext → AccountId → m (Except StoreFailure Account)
  findByTaxId : CallContext → Cpf → m (Except StoreFailure Account)
  ping : m (Except StoreFailure Unit)

/-- Where log events go; `enclose` runs a step inside a span. -/
structure Journal (m : Type → Type) where
  emit : LogEvent → m Unit
  enclose : {α : Type} → Span → m α → m α

/-- A service for one kind of account. -/
structure AccountService (m : Type → Type) where
  kind : AccountKind
  identity : IdentityProvider m
  store : AccountStore m
  journal : Journal m

namespace AccountService

variable {m : Type → Type} [Monad m]

/-- The module path of the service's own events. -/
def target : String := "customer_identity_server::services::accounts"

/-- The service's component name. -/
def name (svc : AccountService m) : String := svc.kind.serviceName

/-- The span of an operation, with the account kind. -/
def span (svc : AccountService m) (op : String) (extra : List (String × FieldValue) := []) : Span :=
  ⟨op, target, extra ++ [("kind", .shown svc.kind.label)]⟩

/-- Classifies, attributes and logs a failure. -/
def fail {ε : Type} [Classify ε] (svc : AccountService m) (e : ε) : m Failure := do
  let (f, ev) := (Classify.classify e).attributeTo svc.name
  svc.journal.emit ev
  pure f

/-- The failure for a malformed tax id. -/
def invalidCpf (e : CpfError) : Failure := Failure.make .validation ("Invalid CPF: " ++ e.message)

/-- Runs a capability call, turning its failure into the service's. -/
def lift {ε α : Type} [Classify ε] (svc : AccountService m) (x : m (Except ε α)) : m (Except Failure α) := do
  match ← x with
  | .ok a => pure (.ok a)
  | .error e => pure (.error (← svc.fail e))

/-- The event that reports an identity left without an account. -/
def orphanEvent (f : Failure) (cpf : Cpf) (ctx : CallContext) : LogEvent :=
  let fields : List (String × FieldValue) :=
    [("kind", .shown f.kind.name), ("cpf", .shown cpf.masked), ("request_id", .text (ctx.requestId.getD "")),
     ("error", .shown f.message)]
  if f.kind.isServerError then
    { level := .error, target := target, fields := fields,
      message := "Identity registered but account insert failed; remote identity is orphaned" }
  else
    { level := .warn, target := target, fields := fields,
      message := "Identity registered but account insert rejected; remote identity is orphaned" }

/-- The event that reports a created account. -/
def createdEvent (id : AccountId) (cpf : Cpf) : LogEvent :=
  { level := .info, target := target, message := "Account created",
    fields := [("id", .shown id.display), ("cpf", .shown cpf.masked)] }

/-- Registers the account with the identity provider, then stores it. -/
def create (svc : AccountService m) (ctx : CallContext) (d : AccountDraft) : m (Except Failure AccountId) :=
  svc.journal.enclose (svc.span "create") do
    match Cpf.parse d.cpf with
    | .error e => pure (.error (← svc.fail (invalidCpf e)))
    | .ok cpf =>
      let account := d.toAccount cpf
      match ← svc.lift (svc.identity.register ctx ⟨account.name, account.cpf, account.email, svc.kind⟩) with
      | .error f => pure (.error f)
      | .ok () =>
        match ← svc.store.insert ctx account with
        | .error e =>
          let f := e.classify.attributed svc.name
          svc.journal.emit (orphanEvent f cpf ctx)
          pure (.error f)
        | .ok id =>
          svc.journal.emit (createdEvent id cpf)
          pure (.ok id)

/-- Overwrites a stored account; the provider's profile is not touched. -/
def update (svc : AccountService m) (ctx : CallContext) (d : AccountDraft) : m (Except Failure Unit) :=
  svc.journal.enclose ⟨"update", target, [("kind", .shown svc.kind.label), ("id", .shown d.id.display)]⟩ do
    match Cpf.parse d.cpf with
    | .error e => pure (.error (← svc.fail (invalidCpf e)))
    | .ok cpf => svc.lift (svc.store.save ctx (d.toAccount cpf))

/-- The account with an identifier. -/
def getById (svc : AccountService m) (ctx : CallContext) (id : AccountId) : m (Except Failure Account) :=
  svc.journal.enclose (svc.span "get_by_id" [("id", .shown ("AccountId(" ++ id.display ++ ")"))]) do
    svc.lift (svc.store.findById ctx id)

/-- The account with a tax id, written with or without punctuation. -/
def getByTaxId (svc : AccountService m) (ctx : CallContext) (taxId : String) : m (Except Failure Account) :=
  svc.journal.enclose (svc.span "get_by_tax_id") do
    match Cpf.parse taxId with
    | .error e => pure (.error (← svc.fail (invalidCpf e)))
    | .ok cpf => svc.lift (svc.store.findByTaxId ctx cpf)

/-- Logs in with a tax id, passed to the provider as given. -/
def login (svc : AccountService m) (ctx : CallContext) (taxId : String) : m (Except Failure CredentialToken) :=
  svc.journal.enclose (svc.span "login") do
    svc.lift (svc.identity.authenticate ctx taxId)

/-- Logs in as the shared guest identity. -/
def loginAnonymous (svc : AccountService m) (ctx : CallContext) : m (Except Failure CredentialToken) :=
  svc.journal.enclose (svc.span "login_anonymous") do
    svc.lift (svc.identity.authenticateAnonymous ctx)

/-- Checks that the store is reachable. -/
def ping (svc : AccountService m) : m (Except Failure Unit) :=
  svc.lift svc.store.ping

end AccountService

/-! ## Runs of a state monad

The worlds the services run in are state monads; a run of a bound or mapped step is taken
apart by these two equations.
-/

theorem StateM.run_bind {σ α β : Type} (x : StateM σ α) (f : α → StateM σ β) (s : σ) :
    (x >>= f).run s = (f (x.run s).1).run (x.run s).2 := rfl

theorem StateM.run_map {σ α β : Type} (f : α → β) (x : StateM σ α) (s : σ) :
    (f <$> x).run s = (f (x.run s).1, (x.run s).2) := rfl

end AccountRegistry
