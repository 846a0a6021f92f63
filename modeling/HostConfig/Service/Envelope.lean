import HostConfig.Netbox.RaisedRules
import HostConfig.Service.Routes

/-!
# `Service.Envelope` — what the error envelope says about the cause

The context of a 404 or 502 envelope has the asset tag, and the operation, of the exception. The handler of an
`InvariantError` looks for the id of the rule under a name the exception does not have (`code`, where it is
`invariant`): the context of every 422 envelope is the same, whichever rule was violated. So of two hosts with
different defects the envelopes cannot be told apart by their contexts (`preservesCause_iff`).
-/

namespace HostConfig
namespace Service

open Models Netbox Render

/-- `error.context` of a response; a response that is not an envelope has none. -/
def Response.context : Response → List (String × Option String)
  | .envelope _ _ context                => context
  | .file _ | .internalServerError => []

/-- Some key of the context has this text. -/
def Response.Names (response : Response) (text : String) : Prop := ∃ key, (key, some text) ∈ response.context

namespace RenderRequest

/-- What the request is answered with. -/
def answer (request : RenderRequest) : Response := handleRender request.client request.assetTag request.kind

/-- The load of the request's host raises this exception. -/
def Raises (request : RenderRequest) (e : PyExc) : Prop :=
  loadHostIntent request.client request.assetTag = .error e

variable {request other : RenderRequest}

/-- A failed request is answered by the handler of its exception. -/
theorem Raises.answer_eq {e : PyExc} (h : request.Raises e) : request.answer = onException e := by
  unfold answer handleRender
  rw [h]

/-- The envelope of a request that fails at Netbox names the asset tag, and the operation. -/
structure KeepsQuery (request : RenderRequest) : Prop where
  notFound : ∀ assetTag, request.Raises (.hostNotFoundError assetTag) →
    request.answer.status = 404 ∧ request.answer.context = [("asset_tag", some assetTag)]
  query : ∀ operation cause assetTag, request.Raises (.netboxQueryError operation cause assetTag) →
    request.answer.status = 502 ∧
      request.answer.context = [("asset_tag", assetTag), ("operation", some operation)]

theorem keepsQuery (request : RenderRequest) : KeepsQuery request := by
  constructor
  case notFound =>
    intro assetTag h
    rw [h.answer_eq]
    exact ⟨rfl, rfl⟩
  case query =>
    intro operation cause assetTag h
    rw [h.answer_eq]
    exact ⟨rfl, rfl⟩

/-- The envelopes of two requests preserve the causes: of different rules the contexts differ, and each
    names its rule; those of other failures name what the exceptions carry. -/
structure PreservesCause (request other : RenderRequest) : Prop where
  rule : ∀ e e', request.Raises (.invariantError e) → other.Raises (.invariantError e') →
    e.invariant ≠ e'.invariant →
      request.answer.context ≠ other.answer.context ∧
        request.answer.Names e.invariant ∧ other.answer.Names e'.invariant
  keepsQuery : KeepsQuery request
  keepsQuery' : KeepsQuery other

/-- **Every 422 envelope has the same context**, in which the code is null. -/
theorem Raises.context_eq {e : InvariantError} (h : request.Raises (.invariantError e)) :
    request.answer.status = 422 ∧ request.answer.context = [("code", none)] := by
  rw [h.answer_eq]
  exact ⟨rfl, rfl⟩

/-- No text is named there, the id of the rule least of all. -/
theorem Raises.not_names {e : InvariantError} (h : request.Raises (.invariantError e)) (text : String) :
    ¬ request.answer.Names text := by
  rintro ⟨key, hmem⟩
  rw [h.context_eq.2, List.mem_singleton] at hmem
  cases hmem

/-- **The causes are preserved only where there is nothing to tell apart**: exactly when the two requests do
    not fail with different rules. -/
theorem preservesCause_iff (request other : RenderRequest) :
    PreservesCause request other ↔
      ∀ e e', request.Raises (.invariantError e) → other.Raises (.invariantError e') →
        e.invariant = e'.invariant := by
  constructor
  · intro h e e' he he'
    by_contra hne
    obtain ⟨hcontext, -, -⟩ := h.rule e e' he he' hne
    apply hcontext
    rw [he.context_eq.2, he'.context_eq.2]
  · intro h
    constructor
    case rule =>
      intro e e' he he' hne
      exact absurd (h e e' he he') hne
    case keepsQuery => exact keepsQuery request
    case keepsQuery' => exact keepsQuery other

/-- The `cpu` fixture with a bond whose MTU is below that of the storage VLAN. -/
def smallBondClient : Client :=
  oneDevice "SN-CPU-001" cpuDevice
    (cpuInterfaces.map fun iface => if iface.name = "bond0" then { iface with mtu := some 1500 } else iface)
    cpuAddresses

/-- A shared address and a bond that is too small: two rules, and nothing in the envelopes
    to tell them apart. -/
theorem sharedIp_smallBond_alike :
    ¬ PreservesCause ⟨sharedIpClient, "SN-CPU-001", .userData⟩ ⟨smallBondClient, "SN-CPU-001", .userData⟩ := by
  have hshared : (⟨sharedIpClient, "SN-CPU-001", .userData⟩ : RenderRequest).Raises
      (.invariantError ⟨"duplicate-ip", .duplicateIp "10.42.10.11" "bond0.100" "bond0.200"⟩) := by
    rfl
  have hsmall : (⟨smallBondClient, "SN-CPU-001", .userData⟩ : RenderRequest).Raises
      (.invariantError ⟨"mtu-non-monotone", .mtuNonMonotone 1500 9000⟩) := by
    rfl
  intro h
  obtain ⟨-, hnames, -⟩ := h.rule _ _ hshared hsmall (by decide)
  exact hshared.not_names _ hnames

end RenderRequest
end Service
end HostConfig
