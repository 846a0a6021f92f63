import HostConfig.Service.Metrics
import HostConfig.Service.Outcome

/-!
# `Service.Routes` — the render handler and what it counts

The handler loads the intent, renders one file of it and counts the outcome on the way. Each stage has its
own `except` clauses; the one around the load names only the loader's typed errors. `renders_total_iff` says
for which requests every run is counted.

The render stage is a parameter of the handler, so that a stage that raises is covered too.
-/

namespace HostConfig
namespace Service

open Models Netbox Render Readings

def unknownRole : String := "unknown"

/-- The outcomes the counter is documented to have. -/
def outcomes : List String := ["success", "validation_error", "netbox_error", "template_error"]

/-- The `except` clauses around the load: the outcome counted for an exception, if a clause names it. -/
def loadOutcome : PyExc → Option String
  | .hostNotFoundError _ | .netboxQueryError _ _ _ => some "netbox_error"
  | .invariantError _ => some "validation_error"
  | _ => none

section Handler

variable (renderStage : HostIntent → FileKind → Except PyExc ByteArray)

/-- `_render_endpoint.handler`: the response's body or the exception that leaves the handler,
    and the metrics after. -/
def handler (client : Client) (assetTag : String) (kind : FileKind) (m : Metrics) :
    Except PyExc ByteArray × Metrics :=
  match loadHostIntent client assetTag with
  | .error e =>
      match loadOutcome e with
      | some outcome => (.error e, m.countRender unknownRole outcome)
      | none         => (.error e, m)
  | .ok intent =>
      let m := m.observeQuery "load_host_intent"
      let role := intent.role.value
      match renderStage intent kind with
      -- `except Exception`: whatever the stage raises is counted
      | .error e => (.error e, m.countRender role "template_error")
      | .ok body => (.ok body, (m.observeRender role).countRender role "success")

/-- With `render_for` as the render stage, the handler answers as the endpoint does. -/
theorem handler_eq_handleRender (client : Client) (assetTag : String) (kind : FileKind) (m : Metrics) :
    handleRender client assetTag kind =
      match (handler (fun intent kind => .ok (renderFor intent kind)) client assetTag kind m).1 with
      | .ok body => .file body
      | .error e => onException e := by
  unfold handler handleRender
  cases loadHostIntent client assetTag with
  | ok intent => rfl
  | error e =>
    dsimp only
    cases loadOutcome e <;> rfl

/-- A request for one file of a host, and the Netbox it finds. -/
structure RenderRequest where
  client : Client
  assetTag : String
  kind : FileKind

def RenderRequest.handle (request : RenderRequest) (m : Metrics) : Except PyExc ByteArray × Metrics :=
  handler renderStage request.client request.assetTag request.kind m

/-- The metrics after a sequence of render requests. -/
def handleAll (m : Metrics) : List RenderRequest → Metrics
  | []                  => m
  | request :: requests => handleAll (request.handle renderStage m).2 requests

/-! ## Accounting -/

/-- The run counts one render, with a documented outcome that is `success` exactly when a
    response is returned. -/
def RenderRequest.Accounted (request : RenderRequest) (m : Metrics) : Prop :=
  ∃ labels : RenderLabels,
    (request.handle renderStage m).2.rendersTotal = Counter.bump m.rendersTotal labels ∧
    labels.outcome ∈ outcomes ∧
    (labels.outcome = "success" ↔ ∃ body, (request.handle renderStage m).1 = .ok body)

/-- The loader's typed errors, if anything, are what the load raises. -/
def RenderRequest.Typed (request : RenderRequest) : Prop :=
  Covered (intentReadings request.client request.assetTag)

/-- The clauses name the typed errors and no others. -/
theorem loadOutcome_isSome (e : PyExc) : (loadOutcome e).isSome = e.isTyped := by
  cases e <;> rfl

theorem loadOutcome_mem {e : PyExc} {outcome : String} (h : loadOutcome e = some outcome) :
    outcome ∈ outcomes ∧ outcome ≠ "success" := by
  cases e <;> simp only [loadOutcome, Option.some.injEq, reduceCtorEq] at h <;> subst h <;> decide

/-- **One run**: either it is accounted, and then the load raised nothing but typed errors,
    or it counts nothing. -/
theorem handle_cases (request : RenderRequest) (m : Metrics) :
    (request.Typed ∧ request.Accounted renderStage m) ∨
      (¬ request.Typed ∧ (request.handle renderStage m).2 = m) := by
  have htyped : request.Typed ↔ _ := (raised_loadHostIntent request.client request.assetTag).symm
  unfold RenderRequest.Accounted RenderRequest.handle handler
  cases hload : loadHostIntent request.client request.assetTag with
  | ok intent =>
    rw [hload] at htyped
    refine .inl ⟨htyped.mpr (by simp), ?_⟩
    dsimp only
    cases renderStage intent request.kind with
    | ok body => exact ⟨⟨intent.role.value, "success"⟩, by simp, by simp [outcomes], by simp⟩
    | error e => exact ⟨⟨intent.role.value, "template_error"⟩, by simp, by simp [outcomes], by simp⟩
  | error e =>
    rw [hload, raised_error] at htyped
    dsimp only
    have hsome := loadOutcome_isSome e
    cases houtcome : loadOutcome e with
    | some outcome =>
      rw [houtcome] at hsome
      obtain ⟨hmem, hne⟩ := loadOutcome_mem houtcome
      exact .inl ⟨htyped.mpr (by simp [← hsome]), ⟨unknownRole, outcome⟩, rfl, hmem, by simp [hne]⟩
    | none =>
      rw [houtcome] at hsome
      exact .inr ⟨fun h => htyped.mp h (by simp [← hsome]), rfl⟩

theorem accounted_iff (request : RenderRequest) (m : Metrics) :
    request.Accounted renderStage m ↔ request.Typed := by
  rcases handle_cases renderStage request m with ⟨htyped, haccounted⟩ | ⟨huntyped, hsame⟩
  · exact iff_of_true haccounted htyped
  · refine iff_of_false ?_ huntyped
    rintro ⟨labels, hbump, -⟩
    rw [hsame] at hbump
    -- a counter that is raised is another one
    have htotal := congrArg Counter.total hbump
    rw [Counter.total_bump] at htotal
    omega

/-- A run raises the total by one or not at all. -/
theorem total_handle (request : RenderRequest) (m : Metrics) :
    (request.Typed ∧ Counter.total (request.handle renderStage m).2.rendersTotal =
      Counter.total m.rendersTotal + 1) ∨
      (¬ request.Typed ∧ Counter.total (request.handle renderStage m).2.rendersTotal =
        Counter.total m.rendersTotal) := by
  rcases handle_cases renderStage request m with ⟨htyped, labels, hbump, -⟩ | ⟨huntyped, hsame⟩
  · exact .inl ⟨htyped, by rw [hbump, Counter.total_bump]⟩
  · exact .inr ⟨huntyped, by rw [hsame]⟩

theorem total_handleAll_le (requests : List RenderRequest) (m : Metrics) :
    Counter.total (handleAll renderStage m requests).rendersTotal ≤
      Counter.total m.rendersTotal + requests.length := by
  induction requests generalizing m with
  | nil => exact Nat.le_refl _
  | cons request requests ih =>
    have hrest := ih (request.handle renderStage m).2
    rw [handleAll, List.length_cons]
    rcases total_handle renderStage request m with ⟨-, hone⟩ | ⟨-, hsame⟩ <;> omega

theorem total_handleAll_iff (requests : List RenderRequest) (m : Metrics) :
    Counter.total (handleAll renderStage m requests).rendersTotal =
      Counter.total m.rendersTotal + requests.length ↔
      ∀ request ∈ requests, request.Typed := by
  induction requests generalizing m with
  | nil => simp [handleAll]
  | cons request requests ih =>
    have hle := total_handleAll_le renderStage requests (request.handle renderStage m).2
    rw [handleAll, List.length_cons, List.forall_mem_cons, ← ih (request.handle renderStage m).2]
    rcases total_handle renderStage request m with ⟨htyped, hone⟩ | ⟨huntyped, hsame⟩
    · rw [hone]
      constructor
      · intro h
        exact ⟨htyped, by omega⟩
      · rintro ⟨-, h⟩
        omega
    · -- one run is missing, and the later ones cannot make up for it
      refine iff_of_false ?_ fun h => huntyped h.1
      omega

/-- Every run of the sequence is accounted, in the metrics it finds. -/
def EveryRunAccounted (m : Metrics) : List RenderRequest → Prop
  | []                  => True
  | request :: requests =>
      request.Accounted renderStage m ∧ EveryRunAccounted (request.handle renderStage m).2 requests

theorem everyRunAccounted_iff (requests : List RenderRequest) (m : Metrics) :
    EveryRunAccounted renderStage m requests ↔ ∀ request ∈ requests, request.Typed := by
  induction requests generalizing m with
  | nil => simp [EveryRunAccounted]
  | cons request requests ih => rw [EveryRunAccounted, accounted_iff, ih, List.forall_mem_cons]

/-- **Every run is accounted, and the total is the number of requests, exactly when no load lets an untyped
    exception through.** -/
theorem renders_total_iff (m : Metrics) (requests : List RenderRequest) :
    (EveryRunAccounted renderStage m requests ↔ ∀ request ∈ requests, request.Typed) ∧
      (Counter.total (handleAll renderStage m requests).rendersTotal =
        Counter.total m.rendersTotal + requests.length ↔
        ∀ request ∈ requests, request.Typed) := by
  constructor
  · exact everyRunAccounted_iff renderStage requests m
  · exact total_handleAll_iff renderStage requests m

end Handler

/-- A render of the host whose management address is IPv6. -/
def ipv6MgmtRequest : RenderRequest := ⟨ipv6MgmtClient, "SN-CPU-001", .metaData⟩

theorem ipv6Mgmt_not_counted :
    ¬ ipv6MgmtRequest.Accounted (fun intent kind => .ok (renderFor intent kind)) Metrics.zero := by
  have huntyped : ¬ Covered (intentReadings ipv6MgmtRequest.client ipv6MgmtRequest.assetTag) := by
    decide +kernel
  rw [accounted_iff]
  exact huntyped

end Service
end HostConfig
