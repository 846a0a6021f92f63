import HostConfig.Lib.Sha256
import HostConfig.Service.App

/-!
# `Service.Middleware` — the response that leaves `RequestContextMiddleware`

The middleware stamps the response of the inner application with the request id and, on a successful render
response, with cache headers. What it stamps is the object `call_next` returns: the framework's wrapper
around the messages of the inner application, whose body is the iterator of the chunks still to come. The
wrapper has no attribute `body`.

`etag_spec` says what follows for the `ETag`. The request id is an argument here, resolved or minted before.
-/

namespace HostConfig
namespace Service

open Render

/-! ## Headers -/

/-- The raw headers of a response, in order; names are lower-case. -/
abbrev Headers := List (String × String)

namespace Headers

/-- `headers[name]` -/
def get (headers : Headers) (name : String) : Option String := headers.lookup name

/-- `headers[name] = value`: the first entry of this name is replaced and the others are removed, or a
    new one is appended. -/
def set : Headers → String → String → Headers
  | [],           name, value => [(name, value)]
  | (k, v) :: hs, name, value =>
      if k = name then (name, value) :: hs.filter (fun h => h.1 ≠ name) else (k, v) :: set hs name value

@[simp] theorem get_set_self (headers : Headers) (name value : String) :
    (headers.set name value).get name = some value := by
  induction headers with
  | nil => simp [set, get]
  | cons h hs ih =>
    obtain ⟨k, v⟩ := h
    by_cases hk : k = name
    · simp [set, get, hk]
    · have hne : (name == k) = false := beq_eq_false_iff_ne.mpr (Ne.symm hk)
      rw [set, if_neg hk, get, List.lookup_cons, hne]
      exact ih

@[simp] theorem get_set_of_ne (headers : Headers) {name other : String} (value : String)
    (hne : other ≠ name) : (headers.set name value).get other = headers.get other := by
  have hother : (other == name) = false := beq_eq_false_iff_ne.mpr hne
  induction headers with
  | nil => simp [set, get, hother]
  | cons h hs ih =>
    obtain ⟨k, v⟩ := h
    by_cases hk : k = name
    · subst hk
      rw [set, if_pos rfl, get, get, List.lookup_cons, List.lookup_cons, hother]
      -- the entries removed have another name
      clear ih
      induction hs with
      | nil => rfl
      | cons h hs ih =>
        obtain ⟨k', v'⟩ := h
        by_cases hk' : k' = k
        · subst hk'
          simpa [List.lookup_cons, hother] using ih
        · rw [List.filter_cons_of_pos (by simpa using hk'), List.lookup_cons, List.lookup_cons]
          cases other == k' with
          | true => rfl
          | false => exact ih
    · rw [set, if_neg hk, get, get, List.lookup_cons, List.lookup_cons]
      cases other == k with
      | true => rfl
      | false => exact ih

end Headers

/-! ## Requests and responses -/

/-- What the middleware reads of a request. -/
structure Request where
  method : String
  path : String

/-- What the inner application sends: the status, the headers and the chunks of the body. -/
structure InnerResponse where
  statusCode : Nat
  headers : Headers
  chunks : List (List UInt8)

def InnerResponse.body (inner : InnerResponse) : List UInt8 := inner.chunks.flatten

/-- A response object of the framework. `body` is the attribute of this name, where the object has one. -/
structure ResponseObject where
  statusCode : Nat
  headers : Headers
  body : Option (List UInt8)
  bodyIterator : List (List UInt8)

/-- The object `call_next` returns, for the messages of the inner application. -/
def callNext (inner : InnerResponse) : ResponseObject where
  statusCode := inner.statusCode
  headers := inner.headers
  body := none
  bodyIterator := inner.chunks

/-- The bytes the client receives. -/
def ResponseObject.delivered (response : ResponseObject) : List UInt8 := response.bodyIterator.flatten

/-- `Response(content=content, media_type="text/plain; charset=utf-8")`, as the render routes return it. -/
def fileResponse (content : ByteArray) : InnerResponse where
  statusCode := 200
  headers := [("content-length", toString content.size), ("content-type", "text/plain; charset=utf-8")]
  chunks := [content.data.toList]

/-! ## The middleware -/

def requestIdHeader : String := "x-request-id"
def cacheRoutePrefix : String := "/v1/render/"
def cacheMaxAge : Nat := 300

def isCacheRoute (path : String) : Bool := cacheRoutePrefix.toList.isPrefixOf path.toList

def quoted (s : String) : String := "\"" ++ s ++ "\""

/-- `_inject_cache_headers`; `start` is the start time of the service, as an HTTP date. -/
def injectCacheHeaders (start : String) (request : Request) (response : ResponseObject) : ResponseObject :=
  if !isCacheRoute request.path then response
  else if response.statusCode ≠ 200 then response
  else
    let rawBody := response.body.getD []
    let etag := Sha256.hexdigest rawBody
    { response with
      headers := ((response.headers.set "cache-control" ("public, max-age=" ++ toString cacheMaxAge)).set
        "etag" (quoted etag)).set "last-modified" start }

/-- What `dispatch` makes of the inner application's response. -/
def dispatchResponse (start requestId : String) (request : Request) (inner : InnerResponse) :
    ResponseObject :=
  let response := callNext inner
  injectCacheHeaders start request { response with headers := response.headers.set requestIdHeader requestId }

/-! ## The entity tag -/

def ResponseObject.etag (response : ResponseObject) : Option String := response.headers.get "etag"

/-- The tag is the quoted digest of what is delivered. -/
def EtagMatches (response : ResponseObject) : Prop :=
  response.etag = some (quoted (Sha256.hexdigest response.delivered))

theorem quoted_inj {s t : String} : quoted s = quoted t ↔ s = t := by
  refine ⟨fun h => ?_, fun h => by rw [h]⟩
  have hchars := congrArg String.toList h
  simp only [quoted, String.toList_append, List.append_cancel_left_eq, List.append_cancel_right_eq] at hchars
  exact String.toList_inj.mp hchars

section

variable (start requestId : String)

/-- Nothing the middleware does touches the body. -/
theorem delivered_injectCacheHeaders (request : Request) (response : ResponseObject) :
    (injectCacheHeaders start request response).delivered = response.delivered := by
  unfold injectCacheHeaders
  by_cases hpath : (!isCacheRoute request.path) = true
  · rw [if_pos hpath]
  · rw [if_neg hpath]
    by_cases hstatus : response.statusCode ≠ 200
    · rw [if_pos hstatus]
    · rw [if_neg hstatus]
      rfl

theorem delivered_dispatchResponse (request : Request) (inner : InnerResponse) :
    (dispatchResponse start requestId request inner).delivered = inner.body := by
  unfold dispatchResponse
  rw [delivered_injectCacheHeaders]
  rfl

/-- What is hashed is the attribute `body`, and nothing where the object has none. -/
theorem etag_injectCacheHeaders {request : Request} {response : ResponseObject}
    (hpath : isCacheRoute request.path = true) (hstatus : response.statusCode = 200) :
    (injectCacheHeaders start request response).etag =
      some (quoted (Sha256.hexdigest (response.body.getD []))) := by
  have hguard : ¬ (!isCacheRoute request.path) = true := by simp [hpath]
  unfold injectCacheHeaders
  rw [if_neg hguard, if_neg (not_not_intro hstatus)]
  -- the last header written is another one
  show Headers.get (Headers.set (Headers.set _ _ _) _ _) "etag" = _
  rw [Headers.get_set_of_ne _ _ (by decide), Headers.get_set_self]

/-- **The tag of a render response is that of the empty body**: the wrapper has no attribute `body`. -/
theorem etag_dispatchResponse {request : Request} {inner : InnerResponse}
    (hpath : isCacheRoute request.path = true) (hstatus : inner.statusCode = 200) :
    (dispatchResponse start requestId request inner).etag = some (quoted (Sha256.hexdigest [])) := by
  unfold dispatchResponse
  apply etag_injectCacheHeaders
  · exact hpath
  · exact hstatus

/-- **The tag is right exactly on the bodies that have the digest of the empty one**, and it is the same for
    any two render responses, whatever their bodies. -/
theorem etag_spec {request : Request} {inner : InnerResponse} (hpath : isCacheRoute request.path = true)
    (hstatus : inner.statusCode = 200) :
    (EtagMatches (dispatchResponse start requestId request inner) ↔
        Sha256.hexdigest inner.body = Sha256.hexdigest []) ∧
      ∀ (requestId' : String) (request' : Request) (inner' : InnerResponse),
        isCacheRoute request'.path = true → inner'.statusCode = 200 →
          (dispatchResponse start requestId' request' inner').etag =
            (dispatchResponse start requestId request inner).etag := by
  have hetag := etag_dispatchResponse start requestId hpath hstatus
  constructor
  · rw [EtagMatches, hetag, delivered_dispatchResponse, Option.some_inj, quoted_inj]
    exact eq_comm
  · intro requestId' request' inner' hpath' hstatus'
    rw [hetag]
    exact etag_dispatchResponse start requestId' hpath' hstatus'

end

/-- A request for the meta-data of the `cpu` fixture. -/
def metaDataRequest : Request := ⟨"GET", "/v1/render/SN-CPU-001/meta-data"⟩

theorem etag_spec_cpu :
    (EtagMatches (dispatchResponse "Thu, 01 Jan 1970 00:00:00 GMT" "00000000-0000-4000-8000-000000000000"
        metaDataRequest (fileResponse (renderFor Models.cpuIntent .metaData))) ↔
      Sha256.hexdigest (fileResponse (renderFor Models.cpuIntent .metaData)).body = Sha256.hexdigest []) ∧
    (dispatchResponse "Thu, 01 Jan 1970 00:00:00 GMT" "00000000-0000-4000-8000-000000000001" metaDataRequest
        (fileResponse (renderFor Models.cpuIntent .userData))).etag =
      (dispatchResponse "Thu, 01 Jan 1970 00:00:00 GMT" "00000000-0000-4000-8000-000000000000" metaDataRequest
        (fileResponse (renderFor Models.cpuIntent .metaData))).etag := by
  have hpath : isCacheRoute metaDataRequest.path = true := by decide
  have hstatus : ∀ content, (fileResponse content).statusCode = 200 := fun _ => rfl
  obtain ⟨hmatches, hsame⟩ := etag_spec "Thu, 01 Jan 1970 00:00:00 GMT" "00000000-0000-4000-8000-000000000000" hpath
    (hstatus (renderFor Models.cpuIntent .metaData))
  exact ⟨hmatches, hsame _ _ _ hpath (hstatus _)⟩

/-- The meta-data of the `cpu` fixture is not what its tag says. -/
theorem cpu_etag_differs :
    ¬ EtagMatches (dispatchResponse "Thu, 01 Jan 1970 00:00:00 GMT" "00000000-0000-4000-8000-000000000000"
      metaDataRequest (fileResponse (renderFor Models.cpuIntent .metaData))) := by
  have hdigest : Sha256.hexdigest
      (fileResponse (renderFor Models.cpuIntent .metaData)).body ≠ Sha256.hexdigest [] := by
    decide +kernel
  intro h
  rw [EtagMatches, etag_dispatchResponse _ _ (by decide) rfl, delivered_dispatchResponse, Option.some_inj,
    quoted_inj] at h
  exact hdigest h.symm

end Service
end HostConfig
