import HostConfig.Netbox.Loader
import HostConfig.Render.Emitter

/-!
# `Service.App` — the render endpoint and its exception handlers

A render request loads the intent and renders one file of it. An exception of the loader goes to the handler
registered for its class, which answers with a status and the JSON error envelope; an exception without a
handler is the framework's plain 500. `render_for` raises nothing on an intent.
-/

namespace HostConfig
namespace Service

open Netbox Render

/-- What a request is answered with. -/
inductive Response
  | file (content : ByteArray)
  /-- The error envelope: `error.type` and `error.context`. Its message is the text of the exception. -/
  | envelope (status : Nat) (type : String) (context : List (String × Option String))
  | internalServerError

def Response.status : Response → Nat
  | .file _                => 200
  | .envelope status _ _   => status
  | .internalServerError   => 500

/-- The registered exception handlers. An `InvariantError` has no attribute `code`. -/
def onException : PyExc → Response
  | .hostNotFoundError assetTag => .envelope 404 "HostNotFoundError" [("asset_tag", some assetTag)]
  | .invariantError _           => .envelope 422 "InvariantError" [("code", none)]
  | .netboxQueryError operation _ assetTag =>
      .envelope 502 "NetboxQueryError" [("asset_tag", assetTag), ("operation", some operation)]
  | _                           => .internalServerError

/-- `GET /v1/render/{asset_tag}/{kind}` -/
def handleRender (client : Client) (assetTag : String) (kind : FileKind) : Response :=
  match loadHostIntent client assetTag with
  | .ok intent => .file (renderFor intent kind)
  | .error e   => onException e

/-- The handlers answer the typed errors and no others. -/
theorem onException_status (e : PyExc) :
    (onException e).status ∈ [404, 422, 502] ↔ e.isTyped = true := by
  cases e <;> simp [onException, Response.status, PyExc.isTyped]

end Service
end HostConfig
