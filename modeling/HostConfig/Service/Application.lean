import HostConfig.Service.Dispatch
import HostConfig.Service.Routes

/-!
# `Service.Application` — the whole service under concurrent requests

A request runs through the middleware, and a render request through its handler inside of it. Both write
metrics: the middleware counts requests by route and status, the handler renders by role and outcome. Here
the handler is the list of its operations on the metrics, one after the other (`handle_eq_program`), and a
step of a request is one operation of either, so the runs are all interleavings of all requests.

Seen without the renders the service is the middleware of `Service.Dispatch` (`reachable_http`).
`reconciled` says how the two counters agree: every request counted under a render route with the status of
an outcome is a render with this outcome, and the renders that are not are of requests in flight or
cancelled.
-/

namespace HostConfig
namespace Service

open Models Netbox Render Readings

/-! ## The handler, one operation after the other -/

/-- An operation of the handler on the metrics. -/
inductive MetricOp
  | observeQuery (endpoint : String)
  | observeRender (role : String)
  | countRender (role outcome : String)

def MetricOp.apply : MetricOp → Metrics → Metrics
  | .observeQuery endpoint,    m => m.observeQuery endpoint
  | .observeRender role,       m => m.observeRender role
  | .countRender role outcome, m => m.countRender role outcome

namespace RenderRequest

variable (request : RenderRequest)

/-- What the handler does to the metrics. -/
def program : List MetricOp :=
  match loadHostIntent request.client request.assetTag with
  | .error e   => (loadOutcome e).toList.map (.countRender unknownRole)
  | .ok intent =>
      [.observeQuery "load_host_intent", .observeRender intent.role.value,
        .countRender intent.role.value "success"]

/-- What the handler ends in. -/
def result : Except PyExc ByteArray :=
  (loadHostIntent request.client request.assetTag).map fun intent => renderFor intent request.kind

/-- **The handler, run through, does its operations in a row.** -/
theorem handle_eq_program (m : Metrics) : request.handle (fun intent kind => .ok (renderFor intent kind)) m =
    (request.result, request.program.foldl (fun m op => op.apply m) m) := by
  unfold handle handler program result
  cases loadHostIntent request.client request.assetTag with
  | ok intent => rfl
  | error e =>
    dsimp only
    cases loadOutcome e <;> rfl

/-- The label of the render, if it is counted. -/
def outcome : Option RenderLabels :=
  match loadHostIntent request.client request.assetTag with
  | .error e   => (loadOutcome e).map fun outcome => ⟨unknownRole, outcome⟩
  | .ok intent => some ⟨intent.role.value, "success"⟩

/-- The status the exception handlers answer with; an exception none is registered for
    leaves the application. -/
def status : Option Nat :=
  match request.result with
  | .ok _    => some 200
  | .error e => if e.isTyped then some (onException e).status else none

/-- The status of a request goes with the outcome of its render. -/
theorem outcome_status : (request.outcome = none ∧ request.status = none) ∨
    ∃ role outcome status, request.outcome = some ⟨role, outcome⟩ ∧ request.status = some status ∧
      ((outcome = "success" ∧ status = 200) ∨ (outcome = "netbox_error" ∧ (status = 404 ∨ status = 502)) ∨
        (outcome = "validation_error" ∧ status = 422)) := by
  unfold outcome status result
  cases hload : loadHostIntent request.client request.assetTag with
  | ok intent => exact .inr ⟨intent.role.value, "success", 200, rfl, rfl, .inl ⟨rfl, rfl⟩⟩
  | error e =>
    cases e with
    | hostNotFoundError => exact .inr ⟨unknownRole, "netbox_error", 404, rfl, rfl, .inr (.inl ⟨rfl, .inl rfl⟩)⟩
    | netboxQueryError => exact .inr ⟨unknownRole, "netbox_error", 502, rfl, rfl, .inr (.inl ⟨rfl, .inr rfl⟩)⟩
    | invariantError => exact .inr ⟨unknownRole, "validation_error", 422, rfl, rfl, .inr (.inr ⟨rfl, rfl⟩)⟩
    | _ => exact .inl ⟨rfl, rfl⟩

/-- A render is counted by the last operation, and by no other. -/
theorem op_of_program {k : Nat} {op : MetricOp} (h : request.program[k]? = some op) :
    (k + 1 < request.program.length ∧ ∀ role outcome, op ≠ .countRender role outcome) ∨
      (k + 1 = request.program.length ∧ ∃ role outcome, op = .countRender role outcome ∧
        request.outcome = some ⟨role, outcome⟩) := by
  unfold program outcome at *
  cases hload : loadHostIntent request.client request.assetTag with
  | ok intent =>
    rw [hload] at h
    match k with
    | 0 | 1 =>
      obtain rfl := Option.some.inj h
      exact .inl ⟨by simp, by simp⟩
    | 2 =>
      obtain rfl := Option.some.inj h
      exact .inr ⟨rfl, _, _, rfl, rfl⟩
    | k + 3 => cases h
  | error e =>
    rw [hload] at h
    dsimp only at h ⊢
    cases houtcome : loadOutcome e with
    | none =>
      rw [houtcome] at h
      cases h
    | some outcome =>
      rw [houtcome] at h
      match k with
      | 0 =>
        obtain rfl := Option.some.inj h
        exact .inr ⟨rfl, _, _, rfl, rfl⟩
      | k + 1 => cases h

end RenderRequest

/-! ## Requests -/

/-- `/render/\x7basset_tag\x7d/{kind.value}` under the prefix of the router. -/
def renderRoute (kind : FileKind) : String := "/v1/render/\x7basset_tag\x7d/" ++ kind.value

inductive Incoming
  /-- A `GET` of a file of a host. -/
  | render (request : RenderRequest)
  /-- Another method on the route of a file, which the framework answers with a 405. -/
  | notAllowed (method : String) (kind : FileKind)
  /-- A request that another route is found for, or none: it ends in a status or in an exception. -/
  | elsewhere (method : String) (route : Option String) (hroute : ∀ kind, route ≠ some (renderRoute kind))
      (ending : Option Nat)

namespace Incoming

def method : Incoming → String
  | .render _                => "GET"
  | .notAllowed method _     => method
  | .elsewhere method _ _ _  => method

/-- The path of the route in the request's scope. -/
def route : Incoming → Option String
  | .render request        => some (renderRoute request.kind)
  | .notAllowed _ kind     => some (renderRoute kind)
  | .elsewhere _ route _ _ => route

def program : Incoming → List MetricOp
  | .render request => request.program
  | _               => []

def outcome : Incoming → Option RenderLabels
  | .render request => request.outcome
  | _               => none

/-- What the inner application ends in: a response with this status, or an exception. -/
def ending : Incoming → Option Nat
  | .render request         => request.status
  | .notAllowed _ _         => some 405
  | .elsewhere _ _ _ ending => ending

end Incoming

/-- A request that is being served. -/
structure Call where
  coroutine : Coroutine
  incoming : Incoming
  /-- How many operations of the handler are done. -/
  done : Nat

/-- What a request does next. -/
inductive CallAction
  /-- The next operation of the handler. -/
  | work
  /-- The inner application answers or raises. -/
  | finish
  /-- `routed`: routing has set the route in the scope. It has not where the request is cancelled before. -/
  | dec (routed : Bool)
  | enter | cancel | reraise | leave | count | observe

/-- The step of the middleware, where it is one. -/
def Incoming.action (incoming : Incoming) : CallAction → Option Action
  | .work    => none
  | .finish  => some (incoming.ending.elim .raise .respond)
  | .enter   => some .enter
  | .cancel  => some .cancel
  | .reraise => some .reraise
  | .leave   => some .leave
  | .count   => some .count
  | .observe => some .observe
  | .dec routed => some (.dec (if routed then incoming.route else none))

def Call.start (incoming : Incoming) : Call := ⟨.start incoming.method, incoming, 0⟩

/-- The application answers when the handler is through; what has answered has been routed. -/
def Call.ready (call : Call) : CallAction → Bool
  | .finish     => call.incoming.program.length ≤ call.done
  | .dec routed => routed || call.coroutine.response.isNone
  | _           => true

/-- One step of a request. The handler works in the middleware's `await`. -/
def advance (a : CallAction) (m : Metrics) (call : Call) : Option (Metrics × Call) :=
  match call.incoming.action a with
  | none =>
      if call.coroutine.phase = .awaiting then
        call.incoming.program[call.done]?.map fun op => (op.apply m, { call with done := call.done + 1 })
      else none
  | some action =>
      if call.ready a then (move action m call.coroutine).map fun r => (r.1, { call with coroutine := r.2 })
      else none

abbrev AppState := Interleaving.System Metrics Call

abbrev appStep : AppState → Interleaving.Event CallAction Incoming → Option AppState :=
  Interleaving.step Call.start advance

/-- A fresh process, before the first request. -/
def fresh : AppState := ⟨Metrics.zero, []⟩

/-- The states the service can be in, at any moment of any interleaving. -/
def AppReachable (t : AppState) : Prop := ∃ es, Runs.run appStep fresh es = some t

/-! ## One step -/

namespace Incoming

variable (incoming : Incoming)

theorem op_of_program {k : Nat} {op : MetricOp} (h : incoming.program[k]? = some op) :
    (k + 1 < incoming.program.length ∧ ∀ role outcome, op ≠ .countRender role outcome) ∨
      (k + 1 = incoming.program.length ∧ ∃ role outcome, op = .countRender role outcome ∧
        incoming.outcome = some ⟨role, outcome⟩) := by
  cases incoming with
  | render request => exact request.op_of_program h
  | notAllowed | elsewhere => cases h

/-- A render that is counted is counted by an operation. -/
theorem outcome_of_program_nil (h : incoming.program = []) : incoming.outcome = none := by
  cases incoming with
  | notAllowed | elsewhere => rfl
  | render request =>
    change request.program = [] at h
    change request.outcome = none
    unfold RenderRequest.program at h
    unfold RenderRequest.outcome
    cases hload : loadHostIntent request.client request.assetTag with
    | ok intent =>
      rw [hload] at h
      cases h
    | error e =>
      rw [hload] at h
      dsimp only at h ⊢
      cases houtcome : loadOutcome e with
      | none => rfl
      | some outcome =>
        rw [houtcome] at h
        cases h

end Incoming

section Step

variable {a : CallAction} {m m' : Metrics} {call call' : Call}

/-- **What one step can do**: an operation of the handler, or a step of the middleware. -/
theorem advance_cases (h : advance a m call = some (m', call')) :
    (∃ op, call.incoming.program[call.done]? = some op ∧ m' = op.apply m ∧
      call' = { call with done := call.done + 1 }) ∨
    (∃ action coroutine, call.incoming.action a = some action ∧ call.ready a = true ∧
      move action m call.coroutine = some (m', coroutine) ∧
        call' = { call with coroutine := coroutine }) := by
  unfold advance at h
  split at h
  · split at h
    · obtain ⟨op, hop, heq⟩ := Option.map_eq_some_iff.mp h
      obtain ⟨rfl, rfl⟩ := Prod.mk.inj heq
      exact .inl ⟨op, hop, rfl, rfl⟩
    · cases h
  · rename_i action haction
    split at h
    · rename_i hready
      obtain ⟨⟨m₁, coroutine⟩, hmove, heq⟩ := Option.map_eq_some_iff.mp h
      obtain ⟨rfl, rfl⟩ := Prod.mk.inj heq
      exact .inr ⟨action, coroutine, haction, hready, hmove, rfl⟩
    · cases h

/-- Only `finish` answers, with what the request ends in. -/
theorem action_respond {incoming : Incoming} {status : Nat} (h : incoming.action a = some (.respond status)) :
    a = .finish ∧ incoming.ending = some status := by
  cases a with
  | finish =>
    cases hending : incoming.ending with
    | none => simp [Incoming.action, hending] at h
    | some status' =>
      simp only [Incoming.action, hending, Option.elim_some, Option.some.injEq, Action.respond.injEq] at h
      exact ⟨rfl, congrArg some h⟩
  | work | enter | cancel | reraise | leave | dec | count | observe => simp [Incoming.action] at h

theorem action_dec {incoming : Incoming} {route : Option String} (h : incoming.action a = some (.dec route)) :
    ∃ routed, a = .dec routed ∧ route = if routed then incoming.route else none := by
  cases a with
  | dec routed =>
    simp only [Incoming.action, Option.some.injEq, Action.dec.injEq] at h
    exact ⟨routed, rfl, h.symm⟩
  | finish => cases hending : incoming.ending <;> simp [Incoming.action, hending] at h
  | work | enter | cancel | reraise | leave | count | observe => simp [Incoming.action] at h

/-- The middleware's metrics. -/
def Metrics.http (m : Metrics) : Metrics :=
  { m with rendersTotal := [], renderDuration := [], netboxQueryDuration := [] }

theorem http_apply (op : MetricOp) (m : Metrics) : (op.apply m).http = m.http := by
  cases op <;> rfl

/-- The middleware does not look at the handler's metrics, -/
theorem move_http {action : Action} {c c' : Coroutine} (h : move action m c = some (m', c')) :
    move action m.http c = some (m'.http, c') := by
  obtain ⟨method, phase, statusCode, response⟩ := c
  unfold move at *
  cases action <;> cases phase <;> simp only [reduceCtorEq, Option.some.injEq, Prod.mk.injEq] at h <;>
    obtain ⟨rfl, rfl⟩ := h <;> rfl

/-- and does not write them. -/
theorem rendersTotal_move {action : Action} {c c' : Coroutine} (h : move action m c = some (m', c')) :
    m'.rendersTotal = m.rendersTotal := by
  rcases move_cases h with ⟨-, rfl, -⟩ | ⟨_, -, -, rfl, -⟩ | ⟨_, -, rfl, -⟩ | ⟨_, -, -, rfl, -⟩ |
    ⟨_, -, -, rfl⟩ |
    ⟨_, -, -, rfl⟩ <;> rfl

namespace Call

/-- Under which labels the render is counted, once it is. -/
def counted (call : Call) : Option RenderLabels :=
  if call.incoming.program.length ≤ call.done then call.incoming.outcome else none

/-- The template is that of the route, unless the request was cancelled before it was routed; a response is
    the one the request ends in, after the handler. -/
structure Consistent (call : Call) : Prop where
  template : ∀ template, call.coroutine.phase = .decremented template ∨
    call.coroutine.phase = .counted template ∨
    call.coroutine.phase = .finished template →
      template = routeTemplate call.incoming.route ∨ (template = unmatched ∧ call.coroutine.response = none)
  response : ∀ status, call.coroutine.response = some status →
    call.incoming.ending = some status ∧ call.incoming.program.length ≤ call.done

theorem consistent_start (incoming : Incoming) : (start incoming).Consistent := by
  constructor
  case template => rintro template (h | h | h) <;> cases h
  case response => exact fun status h => nomatch h

end Call

theorem consistent_advance (hc : call.Consistent) (h : advance a m call = some (m', call')) :
    call'.Consistent := by
  rcases advance_cases h with ⟨op, -, -, rfl⟩ | ⟨action, coroutine, haction, hready, hmove, rfl⟩
  · refine ⟨hc.template, fun status hstatus => ?_⟩
    obtain ⟨hending, hdone⟩ := hc.response status hstatus
    exact ⟨hending, Nat.le_succ_of_le hdone⟩
  rcases move_cases hmove with ⟨-, -, rfl⟩ | ⟨status, rfl, -, -, rfl⟩ | ⟨phase, -, -, rfl, hflight⟩ |
    ⟨route, rfl, -, -, rfl⟩ | ⟨template, hphase, rfl, -⟩ | ⟨template, hphase, rfl, -⟩
  · refine ⟨?_, hc.response⟩
    rintro template (h | h | h) <;> cases h
  · constructor
    · rintro template (h | h | h) <;> cases h
    rintro _ ⟨⟩
    obtain ⟨rfl, hending⟩ := action_respond haction
    exact ⟨hending, of_decide_eq_true hready⟩
  · refine ⟨?_, hc.response⟩
    rintro template (rfl | rfl | rfl) <;> simp [Coroutine.inFlight] at hflight
  · obtain ⟨routed, rfl, hroute⟩ := action_dec haction
    refine ⟨?_, hc.response⟩
    rintro template (h | h | h) <;> cases h
    -- a request that is not routed has not answered
    cases routed with
    | true => exact .inl (by rw [hroute, if_pos rfl])
    | false => exact .inr ⟨by rw [hroute]; rfl, Option.isNone_iff_eq_none.mp hready⟩
  · refine ⟨?_, hc.response⟩
    rintro template' (h | h | h) <;> cases h
    exact hc.template template (.inl hphase)
  · refine ⟨?_, hc.response⟩
    rintro template' (h | h | h) <;> cases h
    exact hc.template template (.inr (.inl hphase))

/-- **The step that counts a render is the last of its handler.** -/
theorem renders_advance {measure : List (RenderLabels × Nat) → Int} {p : RenderLabels → Bool}
    (hbump : ∀ counter labels, measure (Counter.bump counter labels) = measure counter + (p labels).toNat)
    (h : advance a m call = some (m', call')) :
    measure m'.rendersTotal + (call.counted.any p).toNat = measure m.rendersTotal +
      (call'.counted.any p).toNat := by
  rcases advance_cases h with ⟨op, hop, rfl, rfl⟩ | ⟨action, coroutine, -, -, hmove, rfl⟩
  · unfold Call.counted
    dsimp only
    rcases call.incoming.op_of_program hop with ⟨hlt, hne⟩ | ⟨hlast, role, outcome, rfl, houtcome⟩
    · have hsame : (op.apply m).rendersTotal = m.rendersTotal := by
        cases op with
        | observeQuery | observeRender => rfl
        | countRender role outcome => exact absurd rfl (hne role outcome)
      rw [hsame, if_neg (by omega), if_neg (by omega)]
    · rw [if_neg (by omega), if_pos (by omega), houtcome]
      simp [MetricOp.apply, hbump]
  · rw [rendersTotal_move hmove]
    rfl

end Step

/-! ## Every interleaving -/

section Reachable

variable {t : AppState}

/-- **Without the renders, the service is the middleware.** -/
theorem reachable_http (h : AppReachable t) : Reachable (t.map Metrics.http Call.coroutine) := by
  obtain ⟨es, hrun⟩ := h
  refine Interleaving.simulated (f := Metrics.http) (g := Call.coroutine) Incoming.method
    (fun _ => rfl) ?_ hrun
  intro a m call m' call' hstep
  rcases advance_cases hstep with ⟨op, -, rfl, rfl⟩ | ⟨action, coroutine, -, -, hmove, rfl⟩
  · exact .inl ⟨http_apply op m, rfl⟩
  · exact .inr ⟨action, move_http hmove⟩

theorem consistent_of_reachable (h : AppReachable t) : ∀ call ∈ t.procs, call.Consistent := by
  obtain ⟨es, hrun⟩ := h
  have hall : ∀ e ∈ es, (fun _ : Interleaving.Event CallAction Incoming => True) e := fun _ _ => trivial
  refine (Interleaving.preserved (fun _ => True) Call.Consistent ?_ ?_ hall trivial ?_ hrun).2
  · exact fun incoming _ => Call.consistent_start incoming
  · exact fun i a m call m' call' _ _ hc hstep => ⟨trivial, consistent_advance hc hstep⟩
  · exact fun call hcall => absurd hcall List.not_mem_nil

/-- A measure of the renders counts the requests whose render it counts. -/
theorem renders_eq (measure : List (RenderLabels × Nat) → Int) {p : RenderLabels → Bool}
    (hnil : measure [] = 0)
    (hbump : ∀ counter labels, measure (Counter.bump counter labels) = measure counter + (p labels).toNat)
    (h : AppReachable t) : measure t.shared.rendersTotal = t.procs.countP (·.counted.any p) := by
  obtain ⟨es, hrun⟩ := h
  have hstart : ∀ incoming : Incoming, (Call.start incoming).counted.any p = false := by
    intro incoming
    unfold Call.counted Call.start
    split
    · rename_i hnone
      rw [incoming.outcome_of_program_nil (List.length_eq_zero_iff.mp (Nat.le_zero.mp hnone))]
      rfl
    · rfl
  have hbalance := Interleaving.balance (fun m : Metrics => measure m.rendersTotal)
    (fun call : Call => call.counted.any p) hstart (fun _ _ _ _ _ hstep => renders_advance hbump hstep) hrun
  have hfresh : measure fresh.shared.rendersTotal = 0 := hnil
  have hnone : fresh.procs.countP (fun call : Call => call.counted.any p) = 0 := rfl
  omega

end Reachable

/-! ## Reconciling the two counters -/

/-- The statuses that requests with this outcome of their render are answered with. -/
def statusesOf (outcome : String) : List Nat :=
  if outcome = "success" then [200]
  else if outcome = "netbox_error" then [404, 502]
  else if outcome = "validation_error" then [422]
  else []

def renderRoutes : List String := [.metaData, .userData, .networkConfig].map renderRoute

/-- The label of a render request, with a status of this outcome. -/
def ofOutcome (outcome : String) (labels : RequestLabels) : Bool :=
  labels.path ∈ renderRoutes && labels.status ∈ (statusesOf outcome).map toString

namespace Call

/-- Its render is counted with this outcome. -/
def rendered (outcome : String) (call : Call) : Bool :=
  call.counted.any fun labels => labels.outcome = outcome

/-- It is counted as a request with a status of this outcome. -/
def requested (outcome : String) (call : Call) : Bool := call.coroutine.requestLabels.any (ofOutcome outcome)

/-- Its `finally` block has run, and the client has what the application ended in: it was not cancelled. -/
def Answered (call : Call) : Prop :=
  call.coroutine.finallyRun = true ∧ call.coroutine.response = call.incoming.ending

/-- The application would have answered it, and the client went away before. -/
def Cancelled (call : Call) : Prop :=
  call.coroutine.finallyRun = true ∧ call.coroutine.response = none ∧ call.incoming.ending ≠ none

/-- Its handler is through, and the load has given an intent or raised a typed error. -/
def RenderedTyped (call : Call) : Prop :=
  call.incoming.program.length ≤ call.done ∧ ∃ request, call.incoming = .render request ∧
    request.status ≠ none

end Call

/-- **How the counters agree.** -/
structure Reconciled (t : AppState) : Prop where
  /-- The middleware's metrics hold what they would hold without handlers. -/
  middleware : Accounts (t.map Metrics.http Call.coroutine)
  /-- Each render is counted under its labels, when its handler is through, and none twice. -/
  renders : ∀ labels, Counter.get t.shared.rendersTotal labels = t.procs.countP fun call =>
    call.counted = some labels
  /-- Not counted are the renders that raise an untyped exception. -/
  counted : ∀ call ∈ t.procs, call.counted.isSome = true ↔ call.RenderedTyped
  /-- What is counted as a request was counted as a render, -/
  outcomes : ∀ outcome, Counter.totalOf (fun labels => labels.outcome = outcome) t.shared.rendersTotal =
    Counter.totalOf (ofOutcome outcome) t.shared.requestsTotal +
      t.procs.countP fun call => call.rendered outcome && !call.requested outcome
  /-- and the rest of the renders is of requests that are under way or were cancelled. -/
  rest : ∀ outcome, ∀ call ∈ t.procs, call.rendered outcome = true → call.requested outcome = false →
    call.coroutine.finallyRun = false ∨ call.Cancelled
  answered : (∀ call ∈ t.procs, call.Answered) → ∀ outcome,
    Counter.totalOf (fun labels => labels.outcome = outcome) t.shared.rendersTotal =
      Counter.totalOf (ofOutcome outcome) t.shared.requestsTotal

theorem mem_renderRoutes {path : String} : path ∈ renderRoutes ↔ ∃ kind, path = renderRoute kind := by
  constructor
  · intro h
    obtain ⟨kind, -, rfl⟩ := List.mem_map.mp h
    exact ⟨kind, rfl⟩
  · rintro ⟨kind, rfl⟩
    refine List.mem_map_of_mem ?_
    cases kind <;> simp

theorem toString_mem_statuses {outcome : String} {status : Nat} :
    toString status ∈ (statusesOf outcome).map toString ↔ status ∈ statusesOf outcome := by
  have hinj : Function.Injective (toString : Nat → String) := by
    intro m n h
    apply IPv4Address.toDigits_injective
    rw [← Nat.toList_repr, ← Nat.toList_repr]
    exact congrArg String.toList h
  exact List.mem_map_of_injective hinj

/-- The status of a render request goes with its outcome, both ways. -/
theorem RenderRequest.status_mem_iff (request : RenderRequest) {status : Nat}
    (h : request.status = some status) (outcome : String) :
    status ∈ statusesOf outcome ↔ ∃ role, request.outcome = some ⟨role, outcome⟩ := by
  rcases request.outcome_status with ⟨-, hnone⟩ | ⟨role, outcome', status', houtcome, hstatus, hcases⟩
  · rw [hnone] at h
    cases h
  · obtain rfl := Option.some.inj (hstatus.symm.trans h)
    have hroles : (∃ role, request.outcome = some ⟨role, outcome⟩) ↔ outcome' = outcome := by
      simp [houtcome]
    rw [hroles]
    unfold statusesOf
    rcases hcases with ⟨rfl, rfl⟩ | ⟨rfl, rfl | rfl⟩ | ⟨rfl, rfl⟩ <;> split_ifs <;> simp_all [eq_comm]

section Calls

variable {call : Call} {outcome : String}

/-- **A request with the status of an outcome is a render with this outcome.** -/
theorem rendered_of_requested (hc : call.Consistent) (h : call.requested outcome = true) :
    call.rendered outcome = true := by
  unfold Call.requested Coroutine.requestLabels at h
  have hlabels : ∃ template, (call.coroutine.phase = .counted template ∨
      call.coroutine.phase = .finished template) ∧
      ofOutcome outcome ⟨call.coroutine.method, template,
        toString (call.coroutine.response.getD 500)⟩ = true := by
    split at h
    · rename_i template hphase
      exact ⟨template, .inl hphase, h⟩
    · rename_i template hphase
      exact ⟨template, .inr hphase, h⟩
    · cases h
  obtain ⟨template, hphase, hof⟩ := hlabels
  obtain ⟨hpath, hstatus⟩ := (Bool.and_eq_true _ _).mp hof
  obtain ⟨kind, hkind⟩ := mem_renderRoutes.mp (of_decide_eq_true hpath)
  have hmem := toString_mem_statuses.mp (of_decide_eq_true hstatus)
  have hkindNe : renderRoute kind ≠ unmatched := by cases kind <;> decide
  have htemplate : routeTemplate call.incoming.route = renderRoute kind := by
    rcases hc.template template (.inr hphase) with htemplate | ⟨htemplate, -⟩
    · exact htemplate.symm.trans hkind
    · exact absurd (hkind.symm.trans htemplate) hkindNe
  cases hresponse : call.coroutine.response with
  | none =>
    -- 500 is no status of an outcome
    rw [hresponse] at hmem
    unfold statusesOf at hmem
    split_ifs at hmem <;> simp at hmem
  | some status =>
    obtain ⟨hending, hdone⟩ := hc.response status hresponse
    rw [hresponse, Option.getD_some] at hmem
    unfold Call.rendered Call.counted
    rw [if_pos hdone]
    cases hincoming : call.incoming with
    | render request =>
      rw [hincoming] at hending
      obtain ⟨role, houtcome⟩ := (request.status_mem_iff hending outcome).mp hmem
      simp [Incoming.outcome, houtcome]
    | notAllowed method kind' =>
      rw [hincoming] at hending
      obtain rfl := Option.some.inj hending
      unfold statusesOf at hmem
      split_ifs at hmem <;> simp at hmem
    | elsewhere method route hroute ending =>
      -- its template is not that of a render route
      rw [hincoming] at htemplate
      cases route with
      | none =>
        have hunmatched : unmatched = renderRoute kind := htemplate
        exact absurd hunmatched.symm hkindNe
      | some route => exact absurd (congrArg some htemplate) (hroute kind)

/-- A request that was answered and is counted as a render is counted as a request. -/
theorem requested_of_rendered (hc : call.Consistent) (hanswered : call.Answered)
    (h : call.rendered outcome = true) : call.requested outcome = true := by
  obtain ⟨hfinished, hresponse⟩ := hanswered
  unfold Call.rendered Call.counted at h
  split at h
  · cases hincoming : call.incoming with
    | notAllowed | elsewhere =>
      rw [hincoming] at h
      cases h
    | render request =>
      rw [hincoming] at h hresponse
      obtain ⟨labels, houtcome, hlabels⟩ := (Option.any_eq_true _ _).mp h
      obtain rfl := of_decide_eq_true hlabels
      obtain ⟨status, hstatus⟩ : ∃ status, request.status = some status := by
        rcases request.outcome_status with ⟨hnone, -⟩ | ⟨_, _, status, -, hstatus, -⟩
        · exact absurd (hnone.symm.trans houtcome) (by simp)
        · exact ⟨status, hstatus⟩
      have hmem := (request.status_mem_iff hstatus labels.outcome).mpr ⟨labels.role, houtcome⟩
      unfold Coroutine.finallyRun at hfinished
      split at hfinished
      · rename_i template hphase
        change request.status = _ at hstatus
        have htemplate : template = routeTemplate call.incoming.route := by
          rcases hc.template template (.inr (.inr hphase)) with htemplate | ⟨-, hnone⟩
          · exact htemplate
          · exact absurd (hnone.symm.trans (hresponse.trans hstatus)) (by simp)
        rw [hincoming] at htemplate
        unfold Call.requested Coroutine.requestLabels
        rw [hphase, hresponse]
        simp only [Incoming.ending, hstatus, Option.getD_some, Option.any_some, ofOutcome, Bool.and_eq_true,
          decide_eq_true_iff]
        refine ⟨mem_renderRoutes.mpr ⟨request.kind, ?_⟩, toString_mem_statuses.mpr hmem⟩
        rw [htemplate]
        rfl
      · cases hfinished
  · cases h

/-- One that is not counted as a request is under way or was cancelled. -/
theorem finallyRun_or_cancelled (hc : call.Consistent) (h : call.rendered outcome = true)
    (hnot : call.requested outcome = false) : call.coroutine.finallyRun = false ∨ call.Cancelled := by
  cases hfinished : call.coroutine.finallyRun with
  | false => exact .inl rfl
  | true =>
    have hunanswered : call.coroutine.response ≠ call.incoming.ending := by
      intro hresponse
      rw [requested_of_rendered hc ⟨hfinished, hresponse⟩ h] at hnot
      cases hnot
    -- a response would be the one the request ends in
    have hnone : call.coroutine.response = none := by
      cases hresponse : call.coroutine.response with
      | none => rfl
      | some status => exact absurd (hresponse.trans (hc.response status hresponse).1.symm) hunanswered
    exact .inr ⟨hfinished, hnone, fun hending => hunanswered (hnone.trans hending.symm)⟩

/-- A render is counted exactly if it is answered by a handler of its own. -/
theorem counted_isSome_iff : call.counted.isSome = true ↔ call.RenderedTyped := by
  unfold Call.counted Call.RenderedTyped
  split
  · rename_i hdone
    rw [and_iff_right hdone]
    cases call.incoming with
    | notAllowed | elsewhere => simp [Incoming.outcome]
    | render request =>
      have hboth : request.outcome.isSome = true ↔ request.status ≠ none := by
        rcases request.outcome_status with ⟨hnone, hstatus⟩ | ⟨_, _, _, hsome, hstatus, -⟩
        · simp [hnone, hstatus]
        · simp [hsome, hstatus]
      rw [Incoming.outcome, hboth]
      constructor
      · intro hstatus
        exact ⟨request, rfl, hstatus⟩
      · rintro ⟨request', heq, hstatus⟩
        rwa [Incoming.render.inj heq]
  · rename_i hdone
    simp [hdone]

end Calls

section Counts

variable {t : AppState} {outcome : String}

theorem countP_rendered (h : AppReachable t) :
    Counter.totalOf (fun labels => labels.outcome = outcome) t.shared.rendersTotal =
      t.procs.countP (·.rendered outcome) := by
  have hcount := renders_eq (fun counter => Counter.totalOf (fun labels => labels.outcome = outcome) counter)
      rfl
    (fun counter labels => by rw [Counter.totalOf_bump]; rfl) h
  exact Int.natCast_inj.mp hcount

theorem countP_requested (h : AppReachable t) :
    Counter.totalOf (ofOutcome outcome) t.shared.requestsTotal = t.procs.countP (·.requested outcome) := by
  have hcount := requests_eq (fun counter => Counter.totalOf (ofOutcome outcome) counter) rfl
    (fun counter labels => by rw [Counter.totalOf_bump]; rfl) (reachable_http h)
  simp only [Interleaving.System.map, List.countP_map] at hcount
  exact Int.natCast_inj.mp hcount

/-- The renders are those with a request that is counted and those without one. -/
theorem countP_rendered_split (h : AppReachable t) : t.procs.countP (·.rendered outcome) =
    t.procs.countP (·.requested outcome) +
      t.procs.countP fun call => call.rendered outcome && !call.requested outcome := by
  have hsplit := List.countP_eq_countP_filter_add t.procs (fun call => call.rendered outcome)
    fun call => call.requested outcome
  have hboth : (t.procs.filter fun call => call.requested outcome).countP (fun call =>
      call.rendered outcome) =
      t.procs.countP fun call => call.requested outcome := by
    rw [List.countP_filter]
    refine List.countP_congr fun call hcall => ?_
    have himp : call.requested outcome = true → _ :=
      rendered_of_requested (consistent_of_reachable h call hcall)
    simpa using himp
  have hrest : (t.procs.filter fun call => !call.requested outcome).countP (fun call =>
      call.rendered outcome) =
      t.procs.countP fun call => call.rendered outcome && !call.requested outcome := List.countP_filter
  omega

/-- Once every request is answered, no render is left over. -/
theorem countP_left_over (h : AppReachable t) (hanswered : ∀ call ∈ t.procs, call.Answered) :
    (t.procs.countP fun call => call.rendered outcome && !call.requested outcome) = 0 := by
  rw [List.countP_eq_zero]
  intro call hcall hboth
  obtain ⟨hrendered, hnot⟩ := (Bool.and_eq_true _ _).mp hboth
  have hrequested := requested_of_rendered (consistent_of_reachable h call hcall)
      (hanswered call hcall) hrendered
  simp [hrequested] at hnot

end Counts

/-- **The two counters reconcile, at every moment of every interleaving.** -/
theorem reconciled {t : AppState} (h : AppReachable t) : Reconciled t := by
  constructor
  case middleware => exact accounts_of_reachable (reachable_http h)
  case counted => exact fun call _ => counted_isSome_iff
  case rest => exact fun outcome call hcall => finallyRun_or_cancelled (consistent_of_reachable h call hcall)
  case renders =>
    intro labels
    have hany := renders_eq (fun counter => Counter.get counter labels) rfl (get_bump_toNat labels) h
    simp only [any_eq_decide, Int.natCast_inj] at hany
    exact hany
  case outcomes =>
    intro outcome
    rw [countP_rendered h, countP_requested h]
    exact countP_rendered_split h
  case answered =>
    intro hanswered outcome
    rw [countP_rendered h, countP_requested h, countP_rendered_split h,
      countP_left_over h hanswered, Nat.add_zero]

/-- A render, one of a host whose management address is IPv6, and a third that is cancelled
    when it is rendered. -/
def threeRenders : List (Interleaving.Event CallAction Incoming) :=
  [.spawn (.render ⟨cpuClient, "SN-CPU-001", .userData⟩), .spawn (.render ipv6MgmtRequest), .act 0 .enter,
    .act 1 .enter, .act 0 .work, .act 1 .finish, .act 0 .work,
    .spawn (.render ⟨cpuClient, "SN-CPU-001", .metaData⟩), .act 2 .enter, .act 2 .work, .act 2 .work, .act 0 .work,
    .act 1 .reraise, .act 2 .work, .act 2 .cancel, .act 0 .finish, .act 0 .leave,
      .act 0 (.dec true), .act 0 .count,
    .act 1 (.dec true), .act 1 .count, .act 2 (.dec false), .act 2 .count]

theorem reconciled_threeRenders : ∃ t, Runs.run appStep fresh threeRenders = some t ∧ Reconciled t ∧
    Counter.totalOf (fun labels => labels.outcome = "success") t.shared.rendersTotal = 2 ∧
    Counter.totalOf (ofOutcome "success") t.shared.requestsTotal = 1 := by
  have hrun : (Runs.run appStep fresh threeRenders).map (fun t =>
      (Counter.totalOf (fun labels => labels.outcome = "success") t.shared.rendersTotal,
        Counter.totalOf (ofOutcome "success") t.shared.requestsTotal)) = some (2, 1) := by
    decide +kernel
  obtain ⟨t, ht, hcounts⟩ := Option.map_eq_some_iff.mp hrun
  obtain ⟨hrenders, hrequests⟩ := Prod.mk.inj hcounts
  exact ⟨t, ht, reconciled ⟨threeRenders, ht⟩, hrenders, hrequests⟩

end Service
end HostConfig
