import HostConfig.Service.Dispatch
import Mathlib.Data.List.ProdSigma
import Mathlib.Data.Set.Finite.Basic

/-!
# `Service.Cardinality` — how many label combinations the HTTP metrics can have

A label combination of `REQUESTS_TOTAL` is a method, a path label and a status. The path label is the
template of a registered route or the bucket of unmatched requests, and the status is one the application
answers with or 500. The method is what the client sent. So `cardinality_iff`: the number of combinations is
bounded exactly when the methods are.
-/

namespace HostConfig
namespace Service

/-- The events of a service with these routes and statuses whose clients use these methods. -/
def Allowed (methods : Set String) (routes : List String) (statuses : List Nat) : ServiceEvent → Prop
  | .spawn method            => method ∈ methods
  | .act _ (.respond status) => status ∈ statuses
  | .act _ (.dec route)      => ∀ template, route = some template → template ∈ routes
  | _                        => True

/-- After any such run, at most `bound` label combinations of either metric. -/
def BoundedBy (methods : Set String) (routes : List String) (statuses : List Nat) (bound : Nat) : Prop :=
  ∀ es t, (∀ e ∈ es, Allowed methods routes statuses e) → Runs.run serviceStep idle es = some t →
    t.shared.requestsTotal.length ≤ bound ∧ t.shared.requestDuration.length ≤ bound

/-! ## Finitely many methods -/

section Bounded

variable (methods : List String) (routes : List String) (statuses : List Nat)

/-- Every combination the service can emit. -/
def requestLabels : List RequestLabels :=
  (methods ×ˢ (unmatched :: routes) ×ˢ (500 :: statuses)).map fun c => ⟨c.1, c.2.1, toString c.2.2⟩

def durationLabels : List DurationLabels := (methods ×ˢ (unmatched :: routes)).map fun c => ⟨c.1, c.2⟩

theorem length_requestLabels :
    (requestLabels methods routes statuses).length =
      methods.length * ((routes.length + 1) * (statuses.length + 1)) := by
  simp only [requestLabels, List.length_map, List.length_product, List.length_cons]

theorem length_durationLabels_le :
    (durationLabels methods routes).length ≤ methods.length * ((routes.length + 1) * (statuses.length + 1)) := by
  simp only [durationLabels, List.length_map, List.length_product, List.length_cons]
  exact Nat.mul_le_mul_left _ (Nat.le_mul_of_pos_right _ (Nat.succ_pos _))

theorem mem_requestLabels {method template : String} {status : Nat} (hmethod : method ∈ methods)
    (htemplate : template ∈ unmatched :: routes) (hstatus : status ∈ 500 :: statuses) :
    ⟨method, template, toString status⟩ ∈ requestLabels methods routes statuses :=
  List.mem_map.mpr ⟨(method, template, status),
    List.pair_mem_product.mpr ⟨hmethod, List.pair_mem_product.mpr ⟨htemplate, hstatus⟩⟩, rfl⟩

theorem mem_durationLabels {method template : String} (hmethod : method ∈ methods)
    (htemplate : template ∈ unmatched :: routes) : ⟨method, template⟩ ∈ durationLabels methods routes :=
  List.mem_map.mpr ⟨(method, template), List.pair_mem_product.mpr ⟨hmethod, htemplate⟩, rfl⟩

/-- What a coroutine will emit comes from the lists. -/
structure Coroutine.Bounded (c : Coroutine) : Prop where
  method : c.method ∈ methods
  statusCode : c.statusCode ∈ 500 :: statuses
  template : ∀ template, c.phase = .decremented template ∨ c.phase = .counted template →
    template ∈ unmatched :: routes

/-- What has been emitted comes from the lists. -/
structure Metrics.Bounded (m : Metrics) : Prop where
  requestsNodup : (m.requestsTotal.map (·.1)).Nodup
  requests : ∀ labels ∈ m.requestsTotal.map (·.1), labels ∈ requestLabels methods routes statuses
  durationsNodup : (m.requestDuration.map (·.1)).Nodup
  durations : ∀ labels ∈ m.requestDuration.map (·.1), labels ∈ durationLabels methods routes

variable {methods routes statuses}

theorem bounded_move {i : Nat} {a : Action} {m m' : Metrics} {c c' : Coroutine}
    (ha : Allowed {method | method ∈ methods} routes statuses (.act i a))
    (hm : m.Bounded methods routes statuses)
    (hc : c.Bounded methods routes statuses) (h : move a m c = some (m', c')) :
    m'.Bounded methods routes statuses ∧ c'.Bounded methods routes statuses := by
  -- only the last two moves write a label, and all they write from has been bounded on the way
  rcases move_cases h with ⟨-, rfl, rfl⟩ | ⟨status, rfl, -, rfl, rfl⟩ | ⟨phase, hflight, rfl, rfl, hflight'⟩ |
    ⟨route, rfl, -, rfl, rfl⟩ | ⟨template, hphase, rfl, rfl⟩ | ⟨template, hphase, rfl, rfl⟩
  · refine ⟨⟨hm.requestsNodup, hm.requests, hm.durationsNodup, hm.durations⟩, hc.method,
      List.mem_cons_self, ?_⟩
    simp
  · refine ⟨hm, hc.method, List.mem_cons_of_mem 500 ha, ?_⟩
    simp
  · refine ⟨hm, hc.method, hc.statusCode, ?_⟩
    rintro template (rfl | rfl) <;> simp [Coroutine.inFlight] at hflight'
  · refine ⟨⟨hm.requestsNodup, hm.requests, hm.durationsNodup, hm.durations⟩, hc.method, hc.statusCode, ?_⟩
    rintro template (htemplate | htemplate) <;> cases htemplate
    cases route with
    | none => exact List.mem_cons_self
    | some template => exact List.mem_cons_of_mem unmatched (ha template rfl)
  · have htemplate := hc.template template (.inl hphase)
    refine ⟨⟨Counter.nodup_keys_bump _ hm.requestsNodup, ?_, hm.durationsNodup, hm.durations⟩, hc.method,
      hc.statusCode, ?_⟩
    · intro labels hlabels
      rcases (Counter.keys_bump _ _ _).mp hlabels with rfl | hlabels
      · exact mem_requestLabels _ _ _ hc.method htemplate hc.statusCode
      · exact hm.requests labels hlabels
    · rintro template' (h' | h') <;> cases h'
      exact htemplate
  · have htemplate := hc.template template (.inr hphase)
    refine ⟨⟨hm.requestsNodup, hm.requests, Counter.nodup_keys_bump _ hm.durationsNodup, ?_⟩, hc.method,
      hc.statusCode, ?_⟩
    · intro labels hlabels
      rcases (Counter.keys_bump _ _ _).mp hlabels with rfl | hlabels
      · exact mem_durationLabels _ _ hc.method htemplate
      · exact hm.durations labels hlabels
    · simp

/-- **With finitely many methods, the combinations are at most the product of the three lists.** -/
theorem boundedBy_of_methods : BoundedBy {method | method ∈ methods} routes statuses
    (methods.length * ((routes.length + 1) * (statuses.length + 1))) := by
  intro es t hes hrun
  have hbounded := (Interleaving.preserved (Metrics.Bounded methods routes statuses)
    (Coroutine.Bounded methods routes statuses) ?_ (fun _ _ _ _ _ _ => bounded_move) hes ?_ ?_ hrun).1
  · constructor
    · rw [← length_requestLabels]
      exact Counter.length_le hbounded.requestsNodup fun e he => hbounded.requests _ (List.mem_map_of_mem he)
    · refine Nat.le_trans ?_ (length_durationLabels_le methods routes statuses)
      exact Counter.length_le hbounded.durationsNodup fun e he =>
        hbounded.durations _ (List.mem_map_of_mem he)
  · intro method hmethod
    exact ⟨hmethod, List.mem_cons_self, by simp [Coroutine.start]⟩
  · exact ⟨List.nodup_nil, by simp [idle, Metrics.zero], List.nodup_nil, by simp [idle, Metrics.zero]⟩
  · intro c hc
    exact absurd hc List.not_mem_nil

end Bounded

/-! ## Infinitely many methods -/

section Unbounded

/-- One whole request, the `i`-th: routing finds no route, and the request ends in a
    response or is cancelled. -/
def serve (i : Nat) (method : String) (response : Option Nat) : List ServiceEvent :=
  let ending := match response with
    | some status => [Interleaving.Event.act i (.respond status), .act i .leave]
    | none        => [.act i .cancel]
  [.spawn method, .act i .enter] ++ ending ++ [.act i (.dec none), .act i .count, .act i .observe]

/-- The requests with these methods, one after the other. -/
def serveAll (response : Option Nat) : Nat → List String → List ServiceEvent
  | _, []           => []
  | i, method :: ms => serve i method response ++ serveAll response (i + 1) ms

/-- The metrics after the request. -/
def served (m : Metrics) (method : String) (response : Option Nat) : Metrics :=
  (m.incActive.decActive.countRequest ⟨method, unmatched, toString (response.getD 500)⟩).observeRequest
    ⟨method, unmatched⟩

theorem run_serve (m : Metrics) (procs : List Coroutine) (method : String) (response : Option Nat) :
    Runs.run serviceStep ⟨m, procs⟩ (serve procs.length method response) =
      some ⟨served m method response, procs ++
        [⟨method, .finished unmatched, response.getD 500, response⟩]⟩ := by
  cases response with
  | none =>
    show Runs.run serviceStep ⟨m, procs ++ [Coroutine.start method]⟩
      ([Action.enter, .cancel, .dec none, .count, .observe].map (.act procs.length)) = _
    rw [Interleaving.run_last]
    rfl
  | some status =>
    show Runs.run serviceStep ⟨m, procs ++ [Coroutine.start method]⟩
      ([Action.enter, .respond status, .leave, .dec none, .count, .observe].map (.act procs.length)) = _
    rw [Interleaving.run_last]
    rfl

theorem allowed_serve {methods : Set String} {routes : List String} {statuses : List Nat} {method : String}
    {response : Option Nat} (hmethod : method ∈ methods)
    (hresponse : ∀ status, response = some status → status ∈ statuses)
    (i : Nat) : ∀ e ∈ serve i method response, Allowed methods routes statuses e := by
  cases response with
  | none => simp [serve, Allowed, hmethod]
  | some status => simp [serve, Allowed, hmethod, hresponse status rfl]

theorem allowed_serveAll {methods : Set String} (routes : List String) {statuses : List Nat}
    {response : Option Nat}
    (hresponse : ∀ status, response = some status → status ∈ statuses) {ms : List String}
    (hms : ∀ method ∈ ms, method ∈ methods) (i : Nat) :
    ∀ e ∈ serveAll response i ms, Allowed methods routes statuses e := by
  induction ms generalizing i with
  | nil => exact fun e he => absurd he List.not_mem_nil
  | cons method ms ih =>
    obtain ⟨hmethod, hms⟩ := List.forall_mem_cons.mp hms
    intro e he
    rcases List.mem_append.mp he with he | he
    · exact allowed_serve hmethod hresponse i e he
    · exact ih hms (i + 1) e he

/-- Requests with distinct methods, none seen before, add one combination each. -/
theorem run_serveAll (response : Option Nat) {ms : List String} (hnodup : ms.Nodup) (m : Metrics)
    (procs : List Coroutine) (hnew : ∀ method ∈ ms, ∀ labels ∈ m.requestsTotal.map (·.1),
      labels.method ≠ method) :
    ∃ t, Runs.run serviceStep ⟨m, procs⟩ (serveAll response procs.length ms) = some t ∧
      t.shared.requestsTotal.length = m.requestsTotal.length + ms.length := by
  induction ms generalizing m procs with
  | nil => exact ⟨_, rfl, rfl⟩
  | cons method ms ih =>
    obtain ⟨hmethod, hms⟩ := List.nodup_cons.mp hnodup
    obtain ⟨hfirst, hrest⟩ := List.forall_mem_cons.mp hnew
    have hadded : (served m method response).requestsTotal =
      Counter.bump m.requestsTotal ⟨method, unmatched, toString (response.getD 500)⟩ := rfl
    have hlength : (served m method response).requestsTotal.length = m.requestsTotal.length + 1 := by
      rw [hadded]
      apply Counter.length_bump_of_notMem
      intro hmem
      exact hfirst _ hmem rfl
    -- the method just served is none of the later ones
    have hnew' : ∀ method' ∈ ms, ∀ labels ∈ (served m method response).requestsTotal.map (·.1),
        labels.method ≠ method' := by
      intro method' hmethod' labels hlabels
      rw [hadded, Counter.keys_bump] at hlabels
      rcases hlabels with rfl | hlabels
      · rintro rfl
        exact hmethod hmethod'
      · exact hrest method' hmethod' labels hlabels
    obtain ⟨t, hrun, hcount⟩ := ih hms (served m method response)
      (procs ++ [⟨method, .finished unmatched, response.getD 500, response⟩]) hnew'
    refine ⟨t, ?_, by rw [hcount, hlength, List.length_cons]; omega⟩
    rw [serveAll, Runs.run_append, run_serve, Option.bind_some]
    rw [List.length_append, List.length_singleton] at hrun
    exact hrun

/-- **Distinct methods give as many combinations.** -/
theorem unbounded {methods : Set String} (hinf : methods.Infinite) (routes : List String)
    (statuses : List Nat)
    {response : Option Nat} (hresponse : ∀ status, response = some status → status ∈ statuses) (bound : Nat) :
    ¬ BoundedBy methods routes statuses bound := by
  intro hbound
  obtain ⟨ms, hsub, hcard⟩ := hinf.exists_subset_card_eq (bound + 1)
  obtain ⟨t, hrun, hlength⟩ := run_serveAll response ms.nodup_toList Metrics.zero []
    (fun _ _ labels hlabels => absurd hlabels List.not_mem_nil)
  have hmethods : ∀ method ∈ ms.toList, method ∈ methods :=
    fun method hmethod => hsub (Finset.mem_toList.mp hmethod)
  have hallowed := allowed_serveAll routes hresponse hmethods 0
  have hle := (hbound _ t hallowed hrun).1
  have hzero : Metrics.zero.requestsTotal.length = 0 := rfl
  rw [hlength, Finset.length_toList, hcard] at hle
  omega

end Unbounded

/-- **The label combinations are bounded exactly when the methods the clients use are.** -/
theorem cardinality_iff (methods : Set String) (routes : List String) (statuses : List Nat) :
    (∃ bound, BoundedBy methods routes statuses bound) ↔ methods.Finite := by
  constructor
  · rintro ⟨bound, hbound⟩
    by_contra hinf
    -- requests that are cancelled are enough
    have hnone : ∀ status, none = some status → status ∈ statuses := fun _ h => nomatch h
    exact unbounded hinf routes statuses hnone bound hbound
  · intro hfin
    have hmethods : {method | method ∈ hfin.toFinset.toList} = methods := by
      ext method
      simp
    rw [← hmethods]
    exact ⟨_, boundedBy_of_methods⟩

/-- The templates of the registered routes. -/
def registeredRoutes : List String :=
  ["/v1/render/\x7basset_tag\x7d/meta-data", "/v1/render/\x7basset_tag\x7d/user-data",
    "/v1/render/\x7basset_tag\x7d/network-config", "/healthz", "/readyz", "/metrics"]

/-- The statuses of the routes, of the exception handlers and of the framework's own answers. -/
def applicationStatuses : List Nat := [200, 307, 404, 405, 422, 500, 502, 503]

/-- No constant bounds the combinations, whatever methods clients send: every request is
    answered with a 404. -/
theorem cardinality_unbounded : ¬ ∃ bound, BoundedBy Set.univ registeredRoutes applicationStatuses bound := by
  rintro ⟨bound, hbound⟩
  have hstatus : ∀ status, some 404 = some status → status ∈ applicationStatuses := by
    rintro status ⟨⟩
    simp [applicationStatuses]
  exact unbounded Set.infinite_univ registeredRoutes applicationStatuses hstatus bound hbound

end Service
end HostConfig
