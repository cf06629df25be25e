import AccountRegistry.Memory.World

/-!
Requests to the services of the in-memory world, and what a test does to the fakes.

A request names an operation of the service of one account kind with what it is given,
and its reply is what that operation returned. A test sends requests one at a time,
stores rows directly, and arms failures through the fakes' own interface, which arms
registrations, logins and inserts.
-/

set_option autoImplicit false

namespace AccountRegistry.Memory

/-- A request to the service of an account kind. -/
inductive Op where
  | create (k : AccountKind) (ctx : CallContext) (d : AccountDraft)
  | update (k : AccountKind) (ctx : CallContext) (d : AccountDraft)
  | getById (k : AccountKind) (ctx : CallContext) (id : AccountId)
  | getByTaxId (k : AccountKind) (ctx : CallContext) (taxId : String)
  | login (k : AccountKind) (ctx : CallContext) (taxId : String)
  | loginAnonymous (k : AccountKind) (ctx : CallContext)
  | ping (k : AccountKind)

/-- What a request returned. -/
inductive Reply where
  | created (r : Except Failure AccountId)
  | updated (r : Except Failure Unit)
  | found (r : Except Failure Account)
  | loggedIn (r : Except Failure CredentialToken)
  | pinged (r : Except Failure Unit)

/-- Serves a request on the services over the services' monad `m`. -/
def Op.serve {m : Type → Type} [Monad m] (svc : AccountKind → AccountService m) : Op → m Reply
  | .create k ctx d => Reply.created <$> (svc k).create ctx d
  | .update k ctx d => Reply.updated <$> (svc k).update ctx d
  | .getById k ctx id => Reply.found <$> (svc k).getById ctx id
  | .getByTaxId k ctx taxId => Reply.found <$> (svc k).getByTaxId ctx taxId
  | .login k ctx taxId => Reply.loggedIn <$> (svc k).login ctx taxId
  | .loginAnonymous k ctx => Reply.loggedIn <$> (svc k).loginAnonymous ctx
  | .ping k => Reply.pinged <$> (svc k).ping

/-- A failure armed from outside. -/
inductive Fault where
  | register (e : IdentityFailure)
  | login (e : IdentityFailure)
  | table (k : AccountKind) (op : TableOp) (e : StoreFailure)

/-- Arms a failure. -/
def Fault.arm : Fault → Step Unit
  | .register e => armRegister e
  | .login e => armLogin e
  | .table k op e => armTable k op e

/-- What a test does to the fakes: a request, a row stored directly, or a failure armed
through the fakes' interface. -/
inductive Action where
  | request (op : Op)
  | seed (k : AccountKind) (name : String) (cpf : Cpf) (email : String)
  | failRegister (e : IdentityFailure)
  | failLogin (e : IdentityFailure)
  | failInsert (k : AccountKind) (e : StoreFailure)

/-- Runs an action; a request gives its reply. -/
def Action.run : Action → Step (Option Reply)
  | .request op => some <$> op.serve service
  | .seed k name cpf email => do
    let _ ← Memory.seed k ⟨AccountId.unassigned, name, cpf, email⟩
    pure none
  | .failRegister e => do
    armRegister e
    pure none
  | .failLogin e => do
    armLogin e
    pure none
  | .failInsert k e => do
    armTable k .insert e
    pure none

/-- The worlds a test reaches from a world by actions, each of which `allowed` lets
through with its reply. -/
inductive Reaches (allowed : Action → Option Reply → Prop) : World → World → Prop
  | refl (w : World) : Reaches allowed w w
  | step {w w' : World} (a : Action) :
      allowed a (a.run w).1 → Reaches allowed (a.run w).2 w' → Reaches allowed w w'

end AccountRegistry.Memory
