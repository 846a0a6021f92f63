import HostConfig.Netbox.Loader

/-!
# `Vms.Launch` — the QEMU command line of a test VM

`launch_host` loads the intent of a host, looks up the MACs of its N-S NICs, lists its RoCE NICs by name,
and builds the command line from these and its own parameters. `urlparse` is a parameter: its results, and
the `ValueError`s it or its `port` raises, are what a call sees of it.
-/

namespace HostConfig
namespace Vms

open Models Netbox StableSort

/-- What the launcher reads off a parsed URL; reading the port may raise. -/
structure ParsedUrl where
  scheme : String
  hostname : Option String
  port : Except String (Option Int)

/-- `urllib.parse.urlparse` -/
abbrev UrlParse := String → Except String ParsedUrl

/-- What leaves `launch_host` as an exception before QEMU is started. -/
inductive LaunchExc
  | loading (e : PyExc)
  | keyError (nicName assetTag : String)
  | valueError (message : String)

/-- `_SLIRP_GUESTFWD_IP` -/
def slirpGuestfwdIp : String := "10.0.2.100"

/-- `_LOCAL_HOSTNAMES` -/
def localHostnames : List String := ["127.0.0.1", "localhost", "::1"]

/-! ## The SLIRP options -/

/-- `parsed.hostname or "127.0.0.1"` -/
def ParsedUrl.host (parsed : ParsedUrl) : String := (parsed.hostname.filter (· ≠ "")).getD "127.0.0.1"

/-- `parsed.port or (443 if parsed.scheme == "https" else 80)` -/
def ParsedUrl.portOrDefault (parsed : ParsedUrl) : Except LaunchExc Int :=
  match parsed.port with
  | .error message => .error (.valueError message)
  | .ok port       => .ok ((port.filter (· ≠ 0)).getD (if parsed.scheme = "https" then 443 else 80))

/-- `_slirp_hostfwd_suffix` -/
def slirpHostfwdSuffix : Option Int → String
  | none             => ""
  | some sshHostPort => ",hostfwd=tcp::" ++ toString sshHostPort ++ "-:22"

section

variable (urlparse : UrlParse)

def parse (seedServer : String) : Except LaunchExc ParsedUrl := (urlparse seedServer).mapError .valueError

/-- `_slirp_guestfwd_suffix` -/
def slirpGuestfwdSuffix (seedServer : String) : Except LaunchExc String := do
  let parsed ← parse urlparse seedServer
  let host := parsed.host
  if !localHostnames.contains host then .ok ""
  else
    let port ← parsed.portOrDefault
    .ok (",guestfwd=tcp:" ++ slirpGuestfwdIp ++ ":" ++ toString port ++ "-tcp:" ++ host ++
      ":" ++ toString port)

/-- `s.rstrip("/")` -/
def rstripSlash (s : String) : String := String.ofList ((s.toList.reverse.dropWhile (· = '/')).reverse)

/-- `_slirp_seed_url` -/
def slirpSeedUrl (seedServer assetTag : String) : Except LaunchExc String := do
  let parsed ← parse urlparse seedServer
  let base ←
    if localHostnames.contains parsed.host then do
      let port ← parsed.portOrDefault
      .ok (parsed.scheme ++ "://" ++ slirpGuestfwdIp ++ ":" ++ toString port)
    else .ok (rstripSlash seedServer)
  .ok (base ++ "/v1/render/" ++ assetTag ++ "/")

/-! ## The command line -/

/-- A RoCE NIC to wire: its name, its MAC and its tap. -/
structure RoceNic where
  name : String
  mac : String
  tap : String
deriving DecidableEq

/-- The parameters of a launch; `image_path` as the text of its path. -/
structure LaunchParams where
  seedServer : String
  imagePath : String
  memoryMib : Int := 2048
  vcpus : Int := 2
  tapNsa : String := "tap-nsa"
  tapNsb : String := "tap-nsb"
  sshHostPort : Option Int := none
  extraQemuArgs : List String := []

/-- The value of a `-netdev` on a tap. -/
def tapNetdev (id tap : String) : String := "tap,id=" ++ id ++ ",ifname=" ++ tap ++ ",script=no,downscript=no"

/-- The value of a `-device` on that netdev. -/
def tapDevice (id mac : String) : String := "virtio-net-pci,netdev=" ++ id ++ ",mac=" ++ mac

/-- What the loop over the RoCE NICs appends for one. -/
def roceArgs (nic : RoceNic) : List String :=
  ["-netdev", tapNetdev (nic.name ++ "0") nic.tap, "-device", tapDevice (nic.name ++ "0") nic.mac]

/-- `build_cmdline` -/
def buildCmdline (assetTag nsaMac nsbMac : String) (roceNics : List RoceNic) (params : LaunchParams) :
    Except LaunchExc (List String) := do
  let seedUrl ← slirpSeedUrl urlparse params.seedServer assetTag
  let guestfwd ← slirpGuestfwdSuffix urlparse params.seedServer
  let slirpOpts := "user,id=mgmt0" ++ guestfwd ++ slirpHostfwdSuffix params.sshHostPort
  .ok (["qemu-system-x86_64", "-enable-kvm", "-m", toString params.memoryMib, "-smp", toString params.vcpus,
      "-cpu", "host", "-drive", "file=" ++ params.imagePath ++ ",format=qcow2,if=virtio,snapshot=on",
      "-smbios", "type=1,serial=ds=nocloud-net;s=" ++ seedUrl, "-smbios", "type=3,asset=" ++ assetTag,
      "-netdev", slirpOpts, "-device", "virtio-net-pci,netdev=mgmt0",
      "-netdev", tapNetdev "nsa0" params.tapNsa, "-device", tapDevice "nsa0" nsaMac,
      "-netdev", tapNetdev "nsb0" params.tapNsb, "-device", tapDevice "nsb0" nsbMac] ++
    roceNics.flatMap roceArgs ++ ["-display", "none"] ++ params.extraQemuArgs)

/-! ## The launch -/

/-- `_find_mac` -/
def findMac (i : HostIntent) (nicName : String) : Except LaunchExc String :=
  match i.nsNics.find? (fun nic => nic.name.val = nicName) with
  | some nic => .ok nic.mac.val
  | none     => .error (.keyError nicName i.assetTag.val)

/-- The RoCE NICs by name, each on the tap of its name. -/
def roceNics (i : HostIntent) : List RoceNic :=
  (sortedBy (· ≤ ·) (·.name.val) i.roceUnderlays).map fun nic => ⟨nic.name.val, nic.mac.val, "tap-" ++ nic.name.val⟩

/-- What QEMU is started with, and the MACs of the handle. -/
structure Launch where
  cmdline : List String
  macs : List String
deriving DecidableEq

/-- `launch_host`, up to the start of QEMU. -/
def launchHost (client : Client) (assetTag : String) (params : LaunchParams) : Except LaunchExc Launch := do
  let i ← (loadHostIntent client assetTag).mapError .loading
  let nsaMac ← findMac i "nsa"
  let nsbMac ← findMac i "nsb"
  let cmdline ← buildCmdline urlparse assetTag nsaMac nsbMac (roceNics i) params
  .ok ⟨cmdline, [nsaMac, nsbMac] ++ (roceNics i).map (·.mac)⟩

end

end Vms
end HostConfig
