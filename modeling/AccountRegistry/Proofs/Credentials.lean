import Mathlib
import AccountRegistry.Remote.World
import AccountRegistry.Remote.Database
import AccountRegistry.Remote.Client

/-!
# The credentials the identity provider sets and checks

The provider keys an identity by the digits of its tax id, and derives both passwords from
them: the temporary one with one suffix, the permanent one with another. Registration reads the
digits from the validated tax id; login normalizes whatever the caller typed. The two must meet,
or every registered user is locked out.

The directory is any server (`DirectoryServer`): nothing here depends on how it answers. What
the network sees of a step is everything but the log: the states of the database and the
directory, the exchanges and the time spent (`World.core`); two steps that agree on it and on their result from
worlds that agree on it are `Step.SameCore`. Up to the log:

- registration sends the user's creation, its permanent password and its group, in that order,
  each only after the one before succeeded, and ends with the first failure (`sendAll`);
- a login sends one password login under the same user name and permanent password, for every
  typing of the tax id with the same digits; it succeeds only with a token that is not empty;
- a request held past the call's deadline fails as a timeout
  (`registration_matches_login`).
-/

set_option autoImplicit false

namespace AccountRegistry.Remote

variable {σ δ : Type}

/-! ## Steps up to the log -/

/-- Everything a world holds but its log events and open spans. -/
def World.core (w : World σ δ) : σ × δ × List Exchange × Nat :=
  (w.database, w.directory, w.exchanges, w.elapsed)

/-- Two steps that give the same result and agree on all but the log, from any two worlds that
agree on all but the log. -/
def Step.SameCore {α : Type} (x y : Step σ δ α) : Prop :=
  ∀ w w', w.core = w'.core → (x.run w).1 = (y.run w').1 ∧ (x.run w).2.core = (y.run w').2.core

namespace Step.SameCore

variable {α β : Type}

theorem pure (a : α) : Step.SameCore (pure a : Step σ δ α) (pure a) := fun _ _ h => ⟨rfl, h⟩

theorem bind {x y : Step σ δ α} {f g : α → Step σ δ β} (hxy : x.SameCore y) (hfg : ∀ a, (f a).SameCore (g a)) :
    (x >>= f).SameCore (y >>= g) := by
  intro w w' h
  obtain ⟨h₁, h₂⟩ := hxy w w' h
  rw [StateM.run_bind, StateM.run_bind, h₁]
  exact hfg (y.run w').1 (x.run w).2 (y.run w').2 h₂

end Step.SameCore

/-- An event changes only the log. -/
theorem sameCore_emit_bind {α : Type} (e : LogEvent) {x y : Step σ δ α} (h : x.SameCore y) :
    (journal.emit e >>= fun _ => x).SameCore y := fun _ w' hw => h _ w' hw

/-- A span changes only the log. -/
theorem sameCore_enclose {α : Type} (s : Span) {x y : Step σ δ α} (h : x.SameCore y) :
    (journal.enclose s x).SameCore y :=
  fun w w' hw => h { w with spans := w.spans ++ [s] } w' hw

/-! ## One request -/

section Request

variable (dir : DirectoryServer δ) (ctx : CallContext) (q : DirectoryRequest)

/-- A request is recorded, answered by the directory and held for the directory's delay; what
comes back does not touch the world. -/
theorem request_run_snd (w : World σ δ) :
    ((request dir ctx q).run w).2 = ((spend ctx.budgetMs (dir.call w.directory q).1).run
      { w with exchanges := w.exchanges ++ [.request q], directory := (dir.call w.directory q).2.2 }).2 := by
  simp only [request, send, StateT.run_bind, StateT.run_modify, StateT.run_get, StateT.run_set, pure_bind]
  generalize (spend ctx.budgetMs (dir.call w.directory q).fst).run _ = p
  rcases p with ⟨_ | _, w'⟩
  -- in time: the reply is read without touching the world
  · rfl
  · rfl

theorem spend_run_snd (b : Option Nat) (ms : Nat) (w : World σ δ) :
    ((spend b ms).run w).2 = { w with elapsed := ((spend b ms).run w).2.elapsed } := by
  unfold spend
  cases b with
  | none => rfl
  | some b => by_cases h : w.elapsed + ms > b <;> simp [h] <;> rfl

/-- Spending time reads and writes the clock only. -/
theorem sameCore_spend (b : Option Nat) (ms : Nat) : (spend b ms : Step σ δ Bool).SameCore (spend b ms) := by
  rintro ⟨db, d, xs, evs, sp, el⟩ ⟨db', d', xs', evs', sp', el'⟩ h
  simp only [World.core, Prod.mk.injEq] at h
  obtain ⟨rfl, rfl, rfl, rfl⟩ := h
  unfold spend
  cases b with
  | none => exact ⟨rfl, rfl⟩
  | some b => by_cases hb : el + ms > b <;> simp [hb] <;> exact ⟨rfl, rfl⟩

theorem sameCore_request : (request dir ctx q : Step σ δ _).SameCore (request dir ctx q) := by
  rintro ⟨db, d, xs, evs, sp, el⟩ ⟨db', d', xs', evs', sp', el'⟩ h
  simp only [World.core, Prod.mk.injEq] at h
  obtain ⟨rfl, rfl, rfl, rfl⟩ := h
  -- both sides wait the same time on worlds that differ in the log only
  have hw := sameCore_spend ctx.budgetMs (dir.call d q).1
    ⟨db, (dir.call d q).2.2, xs ++ [.request q], evs, sp, el⟩
    ⟨db, (dir.call d q).2.2, xs ++ [.request q], evs', sp', el⟩ rfl
  simp only [request, send, StateT.run_bind, StateT.run_modify, StateT.run_get, StateT.run_set, pure_bind]
  revert hw
  generalize (spend ctx.budgetMs (dir.call d q).1).run ⟨db, (dir.call d q).2.2, xs ++ [.request q], evs, sp, el⟩ = p
  generalize (spend ctx.budgetMs (dir.call d q).1).run ⟨db, (dir.call d q).2.2, xs ++ [.request q], evs', sp', el⟩ = p'
  rintro ⟨hl, hc⟩
  rcases p with ⟨late, w₁⟩
  rcases p' with ⟨late', w₁'⟩
  obtain rfl : late = late' := hl
  cases late
  · exact ⟨rfl, hc⟩
  · exact ⟨rfl, hc⟩

theorem exchanges_request (w : World σ δ) :
    ((request dir ctx q).run w).2.exchanges = w.exchanges ++ [.request q] := by
  rw [request_run_snd, spend_run_snd]

/-- A request held past the deadline of its call fails as a timeout. -/
theorem request_timeout {b : Nat} (w : World σ δ) (hb : ctx.budgetMs = some b)
    (hlate : b < w.elapsed + (dir.call w.directory q).1) : ((request dir ctx q).run w).1 = .error .timeout := by
  simp only [request, send, StateT.run_bind, StateT.run_modify, StateT.run_get, StateT.run_set, pure_bind, spend, hb]
  simp only [gt_iff_lt, hlate, if_true]
  rfl

end Request

/-! ## Requests in turn -/

/-- Sends requests in turn until one fails: the first failure, else success. -/
def sendAll (dir : DirectoryServer δ) (ctx : CallContext) : List DirectoryRequest → Step σ δ (Except IdentityFailure Unit)
  | [] => pure (.ok ())
  | q :: qs => do
    match ← request dir ctx q with
    | .error e => pure (.error e)
    | .ok _ => sendAll dir ctx qs

/-- What requests in turn send: the requests of a prefix of the list, all of them when every
one succeeded. -/
theorem exchanges_sendAll (dir : DirectoryServer δ) (ctx : CallContext) (qs : List DirectoryRequest)
    (w : World σ δ) :
    ∃ n ≤ qs.length, ((sendAll dir ctx qs).run w).2.exchanges = w.exchanges ++ (qs.take n).map .request ∧
      (((sendAll dir ctx qs).run w).1 = .ok () → n = qs.length) := by
  induction qs generalizing w with
  | nil => exact ⟨0, Nat.le_refl _, by simp [sendAll]; rfl, fun _ => rfl⟩
  | cons q qs ih =>
    have hx := exchanges_request dir ctx q w
    rw [sendAll, StateM.run_bind]
    rcases hq : (request dir ctx q).run w with ⟨_ | j, w₁⟩
    -- the first request failed: it is the only one sent
    · rw [hq] at hx
      exact ⟨1, by simp, hx, fun h => nomatch h⟩
    · rw [hq] at hx
      simp only at hx
      obtain ⟨n, hn, hxs, hok⟩ := ih w₁
      exact ⟨n + 1, by simpa using hn, by simp [hxs, hx], fun h => by simpa using hok h⟩

/-! ## Registration and login -/

section Provider

variable (dir : DirectoryServer δ) (cfg : ProviderConfig) (ctx : CallContext)

/-- The access token a login reply carries. -/
def loginToken? (j : Json) : Option String :=
  ((j.field? "AuthenticationResult").bind (·.field? "AccessToken")).bind Json.getStr?

/-- Registration sends the user's creation, its permanent password and its group, each after the
one before succeeded. -/
theorem register_sameCore (r : Registration) :
    let u := r.cpf.digits
    ((identity dir cfg).register ctx r : Step σ δ _).SameCore
      (sendAll dir ctx [.createUser cfg.userPoolId u (u ++ cfg.tempPasswordSuffix)
          [("name", r.name), ("email", r.email), ("email_verified", "true")],
        .setPassword cfg.userPoolId u (u ++ cfg.passwordSuffix) true, .addToGroup cfg.userPoolId u (cfg.groupFor r.role)]) := by
  apply sameCore_enclose
  refine (sameCore_request dir ctx _).bind fun a => ?_
  rcases a with e | _
  · exact .pure _
  · refine sameCore_emit_bind _ ((sameCore_request dir ctx _).bind fun a => ?_)
    rcases a with e | _
    · exact .pure _
    · refine sameCore_emit_bind _ ((sameCore_request dir ctx _).bind fun a => ?_)
      rcases a with e | _
      · exact .pure _
      · exact sameCore_emit_bind _ (.pure _)

theorem passwordLogin_run (user password : String) (w : World σ δ) :
    (passwordLogin dir cfg ctx user password).run w =
      match (request dir ctx (.initiateAuth cfg.clientId user password)).run w with
      | (.error e, w') => (.error e, w')
      | (.ok j, w') =>
        (match loginToken? j with
          | some t => if t.isEmpty then .error .missingToken else .ok ⟨t⟩
          | none => .error .missingToken, w') := by
  rw [passwordLogin, StateM.run_bind]
  rcases (request dir ctx (.initiateAuth cfg.clientId user password)).run w with ⟨e | j, w'⟩
  · rfl
  · dsimp only [loginToken?]
    generalize ((j.field? "AuthenticationResult").bind (·.field? "AccessToken")).bind Json.getStr? = tok
    rcases tok with _ | t
    · rfl
    · by_cases ht : t.isEmpty <;> simp only [ht] <;> rfl

theorem sameCore_passwordLogin (user password : String) :
    (passwordLogin dir cfg ctx user password : Step σ δ _).SameCore (passwordLogin dir cfg ctx user password) := by
  intro w w' h
  obtain ⟨h₁, h₂⟩ := sameCore_request dir ctx (.initiateAuth cfg.clientId user password) w w' h
  rw [passwordLogin_run, passwordLogin_run]
  revert h₁ h₂
  rcases (request dir ctx (.initiateAuth cfg.clientId user password)).run w with ⟨a, w₁⟩
  rcases (request dir ctx (.initiateAuth cfg.clientId user password)).run w' with ⟨a', w₁'⟩
  rintro (rfl : a = a') (h₂ : w₁.core = w₁'.core)
  cases a <;> exact ⟨rfl, h₂⟩

/-- A login sends the digits of the tax id as typed and the permanent password built from them. -/
theorem authenticate_sameCore (taxId : String) :
    let u := Cpf.normalize taxId
    ((identity dir cfg).authenticate ctx taxId : Step σ δ _).SameCore
      (passwordLogin dir cfg ctx u (u ++ cfg.passwordSuffix)) :=
  sameCore_enclose _ (sameCore_passwordLogin dir cfg ctx _ _)

section Login

variable {user password : String} {w : World σ δ}

theorem exchanges_passwordLogin :
    ((passwordLogin dir cfg ctx user password).run w).2.exchanges =
      w.exchanges ++ [.request (.initiateAuth cfg.clientId user password)] := by
  have hx := exchanges_request dir ctx (.initiateAuth cfg.clientId user password) w
  rw [passwordLogin_run]
  rcases hq : (request dir ctx (.initiateAuth cfg.clientId user password)).run w with ⟨_ | _, w'⟩ <;> rw [hq] at hx <;> exact hx

/-- A login succeeds only with the token of its reply, and only when that is not empty. -/
theorem passwordLogin_ok {tok : CredentialToken} (h : ((passwordLogin dir cfg ctx user password).run w).1 = .ok tok) :
    tok.accessToken ≠ "" ∧
      ∃ j, ((request dir ctx (.initiateAuth cfg.clientId user password)).run w).1 = .ok j ∧
        loginToken? j = some tok.accessToken := by
  rw [passwordLogin_run] at h
  rcases hq : (request dir ctx (.initiateAuth cfg.clientId user password)).run w with ⟨_ | j, w'⟩ <;> rw [hq] at h
  · exact nomatch h
  · simp only at h
    rcases ht : loginToken? j with _ | t <;> rw [ht] at h
    · exact nomatch h
    · by_cases he : t.isEmpty
      · simp [he] at h
      · simp only [he, Bool.false_eq_true, if_false, Except.ok.injEq] at h
        subst h
        exact ⟨by simpa [String.isEmpty_iff] using he, j, rfl, ht⟩

/-- A reply without a token, or with an empty one, fails the login as a missing token. -/
theorem passwordLogin_missingToken {j : Json} (hj : ((request dir ctx (.initiateAuth cfg.clientId user password)).run w).1 = .ok j)
    (ht : loginToken? j = none ∨ loginToken? j = some "") :
    ((passwordLogin dir cfg ctx user password).run w).1 = .error .missingToken := by
  rw [passwordLogin_run]
  rcases hq : (request dir ctx (.initiateAuth cfg.clientId user password)).run w with ⟨a, w'⟩
  rw [hq] at hj
  obtain rfl : a = .ok j := hj
  rcases ht with ht | ht <;> simp [ht]

theorem passwordLogin_error {e : IdentityFailure}
    (he : ((request dir ctx (.initiateAuth cfg.clientId user password)).run w).1 = .error e) :
    ((passwordLogin dir cfg ctx user password).run w).1 = .error e := by
  rw [passwordLogin_run]
  rcases hq : (request dir ctx (.initiateAuth cfg.clientId user password)).run w with ⟨a, w'⟩
  rw [hq] at he
  obtain rfl : a = .error e := he
  rfl

end Login

/-- **Registration and login agree on the credentials**: whatever the directory, a login with
any typing of the tax id sends the user name and permanent password registration set. -/
theorem registration_matches_login (r : Registration) (s : String) (hs : Cpf.normalize s = r.cpf.digits) :
    let u := r.cpf.digits
    let password := u ++ cfg.passwordSuffix
    let login := DirectoryRequest.initiateAuth cfg.clientId u password
    ((identity dir cfg).register ctx r).SameCore
      (sendAll dir ctx [.createUser cfg.userPoolId u (u ++ cfg.tempPasswordSuffix)
          [("name", r.name), ("email", r.email), ("email_verified", "true")],
        .setPassword cfg.userPoolId u password true, .addToGroup cfg.userPoolId u (cfg.groupFor r.role)] :
        Step σ δ _) ∧
    (∀ (qs : List DirectoryRequest) (w : World σ δ), ∃ n ≤ qs.length,
      ((sendAll dir ctx qs).run w).2.exchanges = w.exchanges ++ (qs.take n).map .request ∧
      (((sendAll dir ctx qs).run w).1 = .ok () → n = qs.length)) ∧
    ((identity dir cfg).authenticate ctx s).SameCore (passwordLogin dir cfg ctx u password : Step σ δ _) ∧
    (∀ w : World σ δ,
      ((passwordLogin dir cfg ctx u password).run w).2.exchanges = w.exchanges ++ [.request login]) ∧
    (∀ (w : World σ δ) (tok : CredentialToken), ((passwordLogin dir cfg ctx u password).run w).1 = .ok tok →
      tok.accessToken ≠ "" ∧ ∃ j, ((request dir ctx login).run w).1 = .ok j ∧ loginToken? j = some tok.accessToken) ∧
    (∀ (w : World σ δ) (j : Json), ((request dir ctx login).run w).1 = .ok j →
      (loginToken? j = none ∨ loginToken? j = some "") →
      ((passwordLogin dir cfg ctx u password).run w).1 = .error .missingToken) ∧
    (∀ (w : World σ δ) (e : IdentityFailure), ((request dir ctx login).run w).1 = .error e →
      ((passwordLogin dir cfg ctx u password).run w).1 = .error e) ∧
    (∀ (q : DirectoryRequest) (w : World σ δ) (b : Nat), ctx.budgetMs = some b →
      b < w.elapsed + (dir.call w.directory q).1 → ((request dir ctx q).run w).1 = .error .timeout) := by
  intro u password login
  have hauth := authenticate_sameCore (σ := σ) dir cfg ctx s
  simp only [hs] at hauth
  exact ⟨register_sameCore dir cfg ctx r, exchanges_sendAll dir ctx, hauth,
    fun w => exchanges_passwordLogin dir cfg ctx, fun w tok h => passwordLogin_ok dir cfg ctx h,
    fun w j hj ht => passwordLogin_missingToken dir cfg ctx hj ht, fun w e he => passwordLogin_error dir cfg ctx he,
    fun q w b hb hlate => request_timeout dir ctx q w hb hlate⟩

/-- A customer registered under the bare digits logs in with the punctuated tax id as the user
and with the password registration set, against the directory the program is run with. -/
theorem registration_matches_login_punctuated :
    let cfg : ProviderConfig := ⟨"sa-east-1", "pool", "client", "users", "admins", "-p", "-t", "guest", "guest-p"⟩
    let r : Registration := ⟨"Ana", ⟨"17107972073"⟩, "ana@example.com", .customer⟩
    Cpf.normalize "171.079.720-73" = r.cpf.digits ∧
      ((identity Directory.server cfg).authenticate {} "171.079.720-73").SameCore
        (passwordLogin Directory.server cfg {} "17107972073" ("17107972073" ++ cfg.passwordSuffix) :
          Step Database Directory _) := by
  intro cfg r
  have hs : Cpf.normalize "171.079.720-73" = r.cpf.digits := by decide
  exact ⟨hs, (registration_matches_login Directory.server cfg {} r "171.079.720-73" hs).2.2.1⟩

end Provider

end AccountRegistry.Remote
