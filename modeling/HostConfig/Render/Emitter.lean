import HostConfig.Lib.StableSort
import HostConfig.Render.Templates

/-!
# `Render.Emitter` — `render_for`

The emitter projects an intent to the template context with every list in canonical order, picks the template
of the intent's role and the requested file, and encodes the text. No template reads the clock that
`render_for` puts into the context, so it is not a parameter here.
-/

namespace HostConfig
namespace Render

open Models StableSort

/-- The three NoCloud files. -/
inductive FileKind
  | metaData | userData | networkConfig
deriving DecidableEq

def FileKind.value : FileKind → String
  | .metaData      => "meta-data"
  | .userData      => "user-data"
  | .networkConfig => "network-config"

/-- `_canonicalize`: N-S NICs and underlays by name, VLANs by VLAN id, bond members as strings. -/
def canonicalize (intent : HostIntentFields) : HostIntentFields :=
  { intent with
    nsNics := sortedBy (· ≤ ·) (·.name.val) intent.nsNics
    vlans := sortedBy (· ≤ ·) (·.vlanId.val) intent.vlans
    roceUnderlays := sortedBy (· ≤ ·) (·.name.val) intent.roceUnderlays
    ibUnderlays := sortedBy (· ≤ ·) (·.name.val) intent.ibUnderlays
    bond :=
      { intent.bond with
        members := sortedBy (· ≤ ·) id intent.bond.members
        membersLen := by rw [length_sortedBy]; exact intent.bond.membersLen } }

/-- `env.get_template(f"\x7brole}/\x7bkind}.j2")` -/
def template : Role → FileKind → HostIntentFields → List Line
  | _,        .metaData      => metaData
  | .cpu,     .networkConfig => Cpu.networkConfig
  | .cpu,     .userData      => Cpu.userData
  | .gpuB300, .networkConfig => GpuB300.networkConfig
  | .gpuB300, .userData      => GpuB300.userData
  | .gpuB200, .networkConfig => GpuB200.networkConfig
  | .gpuB200, .userData      => GpuB200.userData
  | .gpuH200, .networkConfig => GpuH200.networkConfig
  | .gpuH200, .userData      => GpuH200.userData

/-- The lines of a rendered file, values still opaque. -/
def renderLines (intent : HostIntentFields) (kind : FileKind) : List Line :=
  template intent.role kind (canonicalize intent)

/-- The rendered text, before it is encoded. -/
def render (intent : HostIntentFields) (kind : FileKind) : String := renderText (renderLines intent kind)

/-- `render_for`: the UTF-8 bytes. -/
def renderFor (intent : HostIntent) (kind : FileKind) : ByteArray :=
  (render intent.toHostIntentFields kind).toUTF8

/-! ## The canonical order keeps the elements -/

section Canonicalize

variable (p : HostIntentFields)

@[simp] theorem canonicalize_role : (canonicalize p).role = p.role := rfl

/-- Sorting leaves each list a permutation of what it was: the N-S NICs, -/
theorem canonicalize_nsNics_perm : (canonicalize p).nsNics.Perm p.nsNics := sortedBy_perm _ _

/-- the VLANs, -/
theorem canonicalize_vlans_perm : (canonicalize p).vlans.Perm p.vlans := sortedBy_perm _ _

/-- the RoCE underlays, -/
theorem canonicalize_roceUnderlays_perm : (canonicalize p).roceUnderlays.Perm p.roceUnderlays :=
  sortedBy_perm _ _

/-- the InfiniBand underlays -/
theorem canonicalize_ibUnderlays_perm : (canonicalize p).ibUnderlays.Perm p.ibUnderlays :=
  sortedBy_perm _ _

/-- and the bond's members. -/
theorem canonicalize_members_perm : (canonicalize p).bond.members.Perm p.bond.members :=
  sortedBy_perm _ _

end Canonicalize

end Render
end HostConfig
