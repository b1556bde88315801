import OpenidTlsConnector.Oidc.Keys
import OpenidTlsConnector.Oidc.Wire
import OpenidTlsConnector.Server.Userinfo

/-!
# The routes

The router gives a request to the handler of its path, with the parameters read
from its query or form.  What is refused before a handler sees it, and what a
handler does not live to answer, is told apart from the handlers' own answers.
-/

namespace OpenidTlsConnector

open Foundations

/-! ## Requests and answers -/

inductive Method where
  | get
  | head
  | post
  | other (name : String)
  deriving DecidableEq

structure Request where
  method : Method
  path : String
  query : Option String
  headers : HeaderMap
  body : List UInt8

/-- What the handlers read from the clock and the random generator. -/
structure Moment where
  minting : MintReadings
  redeeming : Readings
  clock : SystemTime

/-- What the server is told: a request and the moment it is handled. -/
structure Arrival where
  request : Request
  moment : Moment

/-- Of the web framework, the reader of UTF-8 in queries and forms, and whether
a body is taken for a form, by its content type and its length. -/
structure Framework where
  lossy : Text.LossyUtf8
  takesForm : HeaderMap → List UInt8 → Bool

structure Response where
  status : Nat
  location : Option String
  body : Option Json

inductive Rejection where
  | notFound
  | methodNotAllowed
  | queryString
  | formType
  | formBody
  deriving DecidableEq

inductive Answer where
  | response (response : Response)
  | rejected (reason : Rejection)
  /-- The handler panicked. -/
  | aborted

namespace Answer

def json (body : Json) : Answer := .response { status := 200, location := none, body := some body }

/-- `Redirect::temporary`. -/
def redirect (location : String) : Answer :=
  .response { status := 307, location := some location, body := none }

def error (reply : ErrorReply) : Answer :=
  .response { status := reply.status, location := none, body := some reply.toJson }

def ofOutcome {Result : Type} (answer : Result → Answer) : Outcome OIDCError Result → Answer
  | .ok result => answer result
  | .error failure => error failure.intoResponse
  | .panic => .aborted

def ofExcept {Result : Type} (answer : Result → Answer) : Except ErrorReply Result → Answer
  | .ok result => answer result
  | .error reply => error reply

def withoutBody : Answer → Answer
  | .response sent => .response { sent with body := none }
  | .rejected reason => .rejected reason
  | .aborted => .aborted

end Answer

/-! ## Routing -/

inductive Endpoint where
  | discovery
  | authorize
  | token
  | userinfo
  | jwks
  deriving DecidableEq

structure Route where
  path : String
  method : Method
  endpoint : Endpoint
  deriving DecidableEq

def oidcRouter : List Route := [
  { path := "/.well-known/openid-configuration", method := .get, endpoint := .discovery },
  { path := "/authorize", method := .get, endpoint := .authorize },
  { path := "/token", method := .post, endpoint := .token },
  { path := "/userinfo", method := .get, endpoint := .userinfo },
  { path := "/jwks", method := .get, endpoint := .jwks }]

/-- A route for GET serves HEAD as well. -/
def Route.serves (route : Route) (method : Method) : Bool :=
  method == route.method || (route.method == .get && method == .head)

def Request.endpoint (request : Request) : Except Rejection Endpoint :=
  match oidcRouter.find? fun route => route.path == request.path with
  | none => .error .notFound
  | some route =>
      if route.serves request.method then .ok route.endpoint else .error .methodNotAllowed

/-- No two routes have one path. -/
theorem find?_oidcRouter {path : String} {route : Route} :
    (oidcRouter.find? fun route => route.path == path) = some route ↔
      route ∈ oidcRouter ∧ route.path = path := by
  have distinct : ∀ first ∈ oidcRouter, ∀ second ∈ oidcRouter,
      first.path = second.path → first = second := by decide
  constructor
  · intro found
    exact ⟨List.mem_of_find?_eq_some found, by simpa using List.find?_some found⟩
  · intro routed
    obtain ⟨membership, rfl⟩ := routed
    cases found : oidcRouter.find? fun other => other.path == route.path with
    | none => simpa using List.find?_eq_none.mp found route membership
    | some other =>
        have same : other.path = route.path := by simpa using List.find?_some found
        rw [distinct other (List.mem_of_find?_eq_some found) route membership same]

theorem Request.endpoint_eq_ok_iff {request : Request} {endpoint : Endpoint} :
    request.endpoint = .ok endpoint ↔ ∃ route ∈ oidcRouter, route.path = request.path ∧
      route.serves request.method = true ∧ route.endpoint = endpoint := by
  unfold Request.endpoint
  constructor
  · intro reached
    split at reached
    · cases reached
    · rename_i route found
      split_ifs at reached with served
      cases reached
      obtain ⟨membership, same⟩ := find?_oidcRouter.mp found
      exact ⟨route, membership, same, served, rfl⟩
  · intro routed
    obtain ⟨route, membership, same, served, rfl⟩ := routed
    rw [find?_oidcRouter.mpr ⟨membership, same⟩]
    exact if_pos served

/-- Tokens are asked for by POST. -/
theorem Request.method_of_token {request : Request} (reached : request.endpoint = .ok .token) :
    request.path = "/token" ∧ request.method = .post := by
  obtain ⟨route, membership, same, served, isToken⟩ := endpoint_eq_ok_iff.mp reached
  simp only [oidcRouter, List.mem_cons, List.not_mem_nil, or_false] at membership
  rcases membership with rfl | rfl | rfl | rfl | rfl
  · cases isToken
  · cases isToken
  · exact ⟨same.symm, by simpa [Route.serves] using served⟩
  · cases isToken
  · cases isToken

/-! ## Extracting and handling -/

def Request.authorizeParams (framework : Framework) (request : Request) :
    Except Rejection AuthorizeParams :=
  match AuthorizeParams.deserialize
      (FormUrlEncoded.pairs framework.lossy (request.query.getD "")) with
  | some params => .ok params
  | none => .error .queryString

def Request.tokenParams (framework : Framework) (request : Request) :
    Except Rejection TokenParams :=
  if framework.takesForm request.headers request.body then
    match TokenParams.deserialize
        (FormUrlEncoded.pairsOfBytes framework.lossy request.body) with
    | some params => .ok params
    | none => .error .formBody
  else .error .formType

def serve (framework : Framework) (platform : Platform) (state : AppState) (jwk : Jwk)
    (endpoint : Endpoint) (arrival : Arrival) (store : InMemoryTokenStore) :
    Answer × InMemoryTokenStore :=
  let request := arrival.request
  let moment := arrival.moment
  match endpoint with
  | .discovery => (.json (discoveryHandler state).toJson, store)
  | .authorize =>
      match request.authorizeParams framework with
      | .error reason => (.rejected reason, store)
      | .ok params =>
          (.ofOutcome .redirect
            (authorizeHandler platform state request.headers params moment.minting), store)
  | .token =>
      match request.tokenParams framework with
      | .error reason => (.rejected reason, store)
      | .ok params =>
          (tokenHandler platform state request.headers params moment.redeeming store).map
            (.ofOutcome fun response => .json response.toJson) id
  | .userinfo =>
      (.ofExcept (fun info => .json info.toJson)
        (userinfoHandler state request.headers moment.clock store), store)
  | .jwks => (.json (JwtIssuer.getJwks jwk).toJson, store)

/-- The server as its clients see it. -/
def httpServer (framework : Framework) (platform : Platform) (state : AppState) (jwk : Jwk) :
    Machine InMemoryTokenStore Arrival Answer where
  step store arrival :=
    match arrival.request.endpoint with
    | .error reason => (.rejected reason, store)
    | .ok endpoint =>
        let (answer, left) := serve framework platform state jwk endpoint arrival store
        (if arrival.request.method = .head then answer.withoutBody else answer, left)

/-! ## The calls behind the requests -/

/-- The call of the server that a request leads to, if it reaches a handler
that uses the store or the flow. -/
def Arrival.call? (framework : Framework) (arrival : Arrival) : Option Call :=
  match arrival.request.endpoint with
  | .ok .authorize =>
      (arrival.request.authorizeParams framework).toOption.map fun params =>
        .authorize arrival.request.headers params arrival.moment.minting
  | .ok .token =>
      (arrival.request.tokenParams framework).toOption.map fun params =>
        .token arrival.request.headers params arrival.moment.redeeming
  | .ok .userinfo => some (.userinfo arrival.request.headers arrival.moment.clock)
  | _ => none

variable {framework : Framework} {platform : Platform} {state : AppState} {jwk : Jwk}
  {arrival : Arrival} {store : InMemoryTokenStore} {call : Call}

/-- Requests lead to three kinds of call. -/
theorem Arrival.call?_cases (isCall : arrival.call? framework = some call) :
    (arrival.request.endpoint = .ok .authorize ∧ ∃ params,
        arrival.request.authorizeParams framework = .ok params ∧
          call = .authorize arrival.request.headers params arrival.moment.minting) ∨
      (arrival.request.endpoint = .ok .token ∧ ∃ params,
        arrival.request.tokenParams framework = .ok params ∧
          call = .token arrival.request.headers params arrival.moment.redeeming) ∨
      (arrival.request.endpoint = .ok .userinfo ∧
        call = .userinfo arrival.request.headers arrival.moment.clock) := by
  unfold Arrival.call? at isCall
  cases reached : arrival.request.endpoint with
  | error reason => simp [reached] at isCall
  | ok endpoint =>
      cases endpoint with
      | discovery | jwks => simp [reached] at isCall
      | userinfo =>
          simp only [reached, Option.some.injEq] at isCall
          exact Or.inr (Or.inr ⟨rfl, isCall.symm⟩)
      | authorize =>
          cases read : arrival.request.authorizeParams framework with
          | error reason => simp [reached, read, Except.toOption] at isCall
          | ok params =>
              simp only [reached, read, Except.toOption, Option.map_some, Option.some.injEq]
                at isCall
              exact Or.inl ⟨rfl, params, rfl, isCall.symm⟩
      | token =>
          cases read : arrival.request.tokenParams framework with
          | error reason => simp [reached, read, Except.toOption] at isCall
          | ok params =>
              simp only [reached, read, Except.toOption, Option.map_some, Option.some.injEq]
                at isCall
              exact Or.inr (Or.inl ⟨rfl, params, rfl, isCall.symm⟩)

/-- Only a form at `/token` becomes a request for tokens. -/
theorem Arrival.call?_of_redeems {request : AccessTokenRequest × Readings}
    (isCall : arrival.call? framework = some call)
    (requested : call.redeems? platform = some request) :
    arrival.request.endpoint = .ok .token ∧ ∃ params,
      arrival.request.tokenParams framework = .ok params ∧
        call = .token arrival.request.headers params arrival.moment.redeeming := by
  rcases Arrival.call?_cases isCall with ⟨-, params, -, rfl⟩ | posted | ⟨-, rfl⟩
  · cases requested
  · exact posted
  · cases requested

/-- Unless it is HEAD, a request is answered by the handler of its route. -/
theorem httpServer_step {endpoint : Endpoint} (reached : arrival.request.endpoint = .ok endpoint)
    (notHead : arrival.request.method ≠ .head) :
    (httpServer framework platform state jwk).step store arrival =
      serve framework platform state jwk endpoint arrival store := by
  simp only [httpServer, reached, notHead, if_false]

theorem httpServer_answer_token {params : TokenParams}
    (reached : arrival.request.endpoint = .ok .token)
    (read : arrival.request.tokenParams framework = .ok params) :
    (httpServer framework platform state jwk).answer store arrival =
      .ofOutcome (fun response => .json response.toJson) (tokenHandler platform state
        arrival.request.headers params arrival.moment.redeeming store).1 := by
  have notHead : arrival.request.method ≠ .head := by simp [(Request.method_of_token reached).2]
  rw [Machine.answer, httpServer_step reached notHead]
  simp [serve, read]

theorem httpServer_next :
    (httpServer framework platform state jwk).next store arrival =
      match arrival.call? framework with
      | some call => (server platform state).next store call
      | none => store := by
  cases reached : arrival.request.endpoint with
  | error reason => simp [Machine.next, httpServer, Arrival.call?, reached]
  | ok endpoint =>
      cases endpoint with
      | discovery | jwks | userinfo =>
          simp [Machine.next, httpServer, Arrival.call?, serve, server, reached]
      | authorize =>
          cases read : arrival.request.authorizeParams framework <;>
            simp [Machine.next, httpServer, Arrival.call?, serve, server, reached, read,
              Except.toOption]
      | token =>
          cases read : arrival.request.tokenParams framework <;>
            simp [Machine.next, httpServer, Arrival.call?, serve, server, reached, read,
              Except.toOption]

/-- The calls of a run. -/
def calls (framework : Framework) (run : List Arrival) : List Call :=
  run.filterMap (Arrival.call? framework)

/-- No request revokes. -/
theorem not_mem_calls_revoke {jti : String} (run : List Arrival) :
    Call.revoke jti ∉ calls framework run := by
  intro membership
  obtain ⟨arrival, -, isCall⟩ := List.mem_filterMap.mp membership
  rcases Arrival.call?_cases isCall with ⟨-, _, -, same⟩ | ⟨-, _, -, same⟩ | ⟨-, same⟩ <;>
    cases same

/-- A run of requests leaves the store that its calls leave. -/
theorem httpServer_after (run : List Arrival) :
    (httpServer framework platform state jwk).after store run =
      (server platform state).after store (calls framework run) := by
  induction run generalizing store with
  | nil => rfl
  | cons arrival run inductionHypothesis =>
      rw [Machine.after_cons, inductionHypothesis, httpServer_next]
      simp only [calls, List.filterMap_cons]
      cases arrival.call? framework <;> rfl

end OpenidTlsConnector
