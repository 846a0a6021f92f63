/-!
# `Errors` — the exceptions the modelled code raises

One inductive type for everything that can leave a modelled function as an exception: the typed
`HostConfigError` family (`InvariantError`, `HostNotFoundError`, `NetboxQueryError`) and the untyped ones
of pydantic and the standard library. `PyExc.isTyped` is membership in the family a caller may rely on.

The texts are kept as the data their f-strings interpolate (`InvariantDetail`, `QueryCause`), not as
formatted strings: the ids and operation names callers branch on are strings, the wording is not modelled.
-/

namespace HostConfig

/-- What the `detail` of an `InvariantError` interpolates, one constructor for each raise site. -/
inductive InvariantDetail
  | nsNicCount (got : Nat)
  | bondMemberUnknown (bond : String) (unknown known : List String)
  | vlanRolesIncomplete (roles : List (String × Nat))
  | vlanParentMismatch (bond : String) (bad : List (String × String))
  | defaultGatewayCount (withGw : List String)
  | defaultGatewayRole (vlan role : String)
  | mtuNonMonotone (bondMtu maxChild : Nat)
  | roceCount (role : String) (expected got : Nat)
  | ibCount (role : String) (expected got : Nat)
  | duplicateIp (ip first second : String)
  | duplicateName (dupes : List String)
deriving DecidableEq

/-- A cross-field invariant on a `HostIntent` was violated. -/
structure InvariantError where
  invariant : String
  detail : InvariantDetail
deriving DecidableEq

/-- What a `NetboxQueryError` wraps: the exception of a failed call, or the loader's own complaint. -/
inductive QueryCause
  | raised (exc : String)
  | noRoleSlug (device : Option String)
  | unknownRoleSlug (slug : String)
  | missingNsNic (name : String)
  | missingBond (name : String)
  | noPrimaryMac (iface : String)
  | noUntaggedVlan (iface : String)
  | unknownVlanName (name iface : String)
  | ipCount (iface : String) (got : Nat)
deriving DecidableEq

/-- An exception leaving a modelled function. -/
inductive PyExc
  | invariantError (e : InvariantError)
  | hostNotFoundError (assetTag : String)
  | netboxQueryError (operation : String) (cause : QueryCause) (assetTag : Option String)
  /-- `pydantic.ValidationError`, with the model and the fields it is about. -/
  | validationError (model : String) (fields : List String)
  | valueError (what : String)
  | typeError (what : String)
  | overflowError (what : String)
  | addressValueError (text : String)
  | stopIteration
deriving DecidableEq

/-- The typed errors the loader documents: what the service answers with a 404, 502 or 422. -/
def PyExc.isTyped : PyExc → Bool
  | .invariantError _       => true
  | .hostNotFoundError _    => true
  | .netboxQueryError _ _ _ => true
  | _                       => false

end HostConfig
