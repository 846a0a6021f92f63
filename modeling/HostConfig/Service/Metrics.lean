import HostConfig.Lib.Counter

/-!
# `Service.Metrics` — the metrics registry

The process-wide metrics of `observability.metrics`. A labelled counter is a counting dictionary with one
entry per label combination; of a histogram only the number of observations of each label combination is
kept, so durations and buckets are left out. The gauge is an integer: nothing in it prevents a negative
value.
-/

namespace HostConfig
namespace Service

/-- The labels of `REQUESTS_TOTAL`. -/
structure RequestLabels where
  method : String
  path : String
  status : String
deriving DecidableEq

/-- The labels of `REQUEST_DURATION`. -/
structure DurationLabels where
  method : String
  path : String
deriving DecidableEq

/-- The labels of `RENDERS_TOTAL`. -/
structure RenderLabels where
  role : String
  outcome : String
deriving DecidableEq

structure Metrics where
  requestsTotal : List (RequestLabels × Nat)
  requestDuration : List (DurationLabels × Nat)
  activeRequests : Int
  rendersTotal : List (RenderLabels × Nat)
  /-- by role -/
  renderDuration : List (String × Nat)
  /-- by endpoint -/
  netboxQueryDuration : List (String × Nat)
deriving DecidableEq

namespace Metrics

/-- A fresh process. -/
def zero : Metrics := ⟨[], [], 0, [], [], []⟩

/-- `REQUESTS_TOTAL.labels(..).inc()` -/
def countRequest (m : Metrics) (labels : RequestLabels) : Metrics :=
  { m with requestsTotal := Counter.bump m.requestsTotal labels }

/-- `REQUEST_DURATION.labels(..).observe(..)` -/
def observeRequest (m : Metrics) (labels : DurationLabels) : Metrics :=
  { m with requestDuration := Counter.bump m.requestDuration labels }

/-- `ACTIVE_REQUESTS.inc()` -/
def incActive (m : Metrics) : Metrics := { m with activeRequests := m.activeRequests + 1 }

/-- `ACTIVE_REQUESTS.dec()` -/
def decActive (m : Metrics) : Metrics := { m with activeRequests := m.activeRequests - 1 }

/-- `RENDERS_TOTAL.labels(..).inc()` -/
def countRender (m : Metrics) (role outcome : String) : Metrics :=
  { m with rendersTotal := Counter.bump m.rendersTotal ⟨role, outcome⟩ }

/-- `RENDER_DURATION.labels(..).observe(..)` -/
def observeRender (m : Metrics) (role : String) : Metrics :=
  { m with renderDuration := Counter.bump m.renderDuration role }

/-- `NETBOX_QUERY_DURATION.labels(..).observe(..)` -/
def observeQuery (m : Metrics) (endpoint : String) : Metrics :=
  { m with netboxQueryDuration := Counter.bump m.netboxQueryDuration endpoint }

section

variable (m : Metrics)

@[simp] theorem rendersTotal_observeQuery (endpoint : String) :
    (m.observeQuery endpoint).rendersTotal = m.rendersTotal := rfl
@[simp] theorem rendersTotal_observeRender (role : String) :
    (m.observeRender role).rendersTotal = m.rendersTotal := rfl
@[simp] theorem rendersTotal_countRender (role outcome : String) :
    (m.countRender role outcome).rendersTotal = Counter.bump m.rendersTotal ⟨role, outcome⟩ := rfl

end

end Metrics

end Service
end HostConfig
