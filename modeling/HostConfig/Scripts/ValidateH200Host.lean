import HostConfig.Scripts.Probe
import HostConfig.Lib.StableSort

/-!
# `Scripts.ValidateH200Host` — the twelve checks and the verdict

A check returns one line of the report: its name, a status and a detail. The run is the twelve lines in
order, or what the first check that raises raises; the verdict counts the lines with status `FAIL` and
nothing else. The text report, the JSON report and the exit status are made from the same lines.
-/

namespace HostConfig
namespace Scripts

open Models StableSort

inductive Status
  | pass | warn | skip | fail
deriving DecidableEq

def Status.value : Status → String
  | pass => "PASS"
  | warn => "WARN"
  | skip => "SKIP"
  | fail => "FAIL"

structure CheckResult where
  name : String
  status : Status
  detail : String
deriving DecidableEq

/-! ## The checks -/

section

variable (py : Python) (probe : Probe) (cfg : Config)

/-- `(proc.out + proc.err).lower()`, as far as ASCII: no other character lowers to a letter of
    the words looked for. -/
def cloudInitText : String :=
  let proc := probe.run ["cloud-init", "status"]
  String.ofList (lower (proc.out ++ proc.err).toList)

def checkCloudInit : Except Raised CheckResult :=
  let name := "cloud-init"
  if !probe.haveTool "cloud-init" then .ok ⟨name, .skip, "cloud-init not installed"⟩
  else
    let proc := probe.run ["cloud-init", "status"]
    let text := cloudInitText probe
    if isIn "error" text then .ok ⟨name, .fail, "cloud-init status: error"⟩
    else if isIn "degraded" text then .ok ⟨name, .warn, "done with recoverable errors (degraded)"⟩
    else if isIn "done" text then .ok ⟨name, .pass, "status: done"⟩
    else if isIn "running" text then .ok ⟨name, .warn, "still running"⟩
    else .ok ⟨name, .warn, "unrecognized status: " ++ py.repr (String.ofList (strip proc.out.toList))⟩

def checkNetplanConfig : Except Raised CheckResult :=
  let name := "netplan-config"
  if (probe.readText cfg.netplanPath).isSome then .ok ⟨name, .pass, cfg.netplanPath ++ " present"⟩
  else .ok ⟨name, .fail, cfg.netplanPath ++ " missing"⟩

def checkBondUp : Except Raised CheckResult := do
  let name := "bond0"
  match iface (← ipAddrJson py probe) cfg.bondName with
  | none     => .ok ⟨name, .fail, cfg.bondName ++ " does not exist"⟩
  | some rec =>
      if !(← isUp rec) then .ok ⟨name, .fail, cfg.bondName ++ " exists but is not UP"⟩
      else .ok ⟨name, .pass, cfg.bondName ++ " UP"⟩

/-- Where the kernel shows the bond. -/
def bondingPath : String := "/proc/net/bonding/" ++ cfg.bondName

def checkBondLacp : Except Raised CheckResult :=
  let name := "bond0-lacp"
  match probe.readText (bondingPath cfg) with
  | none      => .ok ⟨name, .fail, bondingPath cfg ++ " absent"⟩
  | some text =>
      let members := countIn "Slave Interface:" text
      let isLacp := isIn "802.3ad" text
      if isLacp && members = 2 then .ok ⟨name, .pass, "802.3ad with 2 members"⟩
      else if !isLacp then .ok ⟨name, .warn, "bond is not 802.3ad mode"⟩
      else .ok ⟨name, .warn, "802.3ad but " ++ toString members ++ " member(s), expected 2"⟩

/-- `_is_up(r) and _ipv4s(r)` -/
def upWithIp (rec : Record) : Except Raised Bool := do
  if ← isUp rec then
    let locals ← ipv4s rec
    .ok !locals.isEmpty
  else .ok false

/-- The elements of a list comprehension whose condition may raise. -/
def keepM (p : Record → Except Raised Bool) : List Record → Except Raised (List Record)
  | []        => .ok []
  | r :: rest => do
      let keep ← p r
      let kept ← keepM p rest
      .ok (if keep then r :: kept else kept)

def checkVlans : Except Raised CheckResult := do
  let name := "vlans"
  let records ← ipAddrJson py probe
  let vlanIfaces := records.filter (isVlanOf py cfg.bondName)
  let up ← keepM upWithIp vlanIfaces
  if (up.length : Int) = cfg.vlanCount then
    let names := ",".intercalate (sortedBy (· ≤ ·) id (up.map fun r => (r.get "ifname" .null).text py))
    .ok ⟨name, .pass, toString cfg.vlanCount ++ " VLANs up w/ IPv4 (" ++ names ++ ")"⟩
  else
    .ok ⟨name, .fail, "expected " ++ toString cfg.vlanCount ++ " VLAN children up with IPv4, found " ++
      toString up.length⟩

def checkDefaultRoute : Except Raised CheckResult :=
  let name := "default-route"
  let proc := probe.run ["ip", "route", "show", "default"]
  if proc.rc = 0 && printsText proc.out then
    .ok ⟨name, .pass, String.ofList ((splitlines (String.ofList (strip proc.out.toList))).headD [])⟩
  else .ok ⟨name, .fail, "no default route"⟩

/-- What is wrong with the rails looked at so far. -/
structure RailProblems where
  missing : List String := []
  down : List String := []
  noIp : List String := []
  badMtu : List String := []
deriving DecidableEq

/-- The body of the loop over the rails. -/
def railProblems (records : List Record) (problems : RailProblems) (ib : String) :
    Except Raised RailProblems :=
  match iface records ib with
  | none     => .ok { problems with missing := problems.missing ++ [ib] }
  | some rec => do
      let up ← isUp rec
      let locals ← ipv4s rec
      let mtu := rec.get "mtu" .null
      .ok { problems with
        down := if up then problems.down else problems.down ++ [ib]
        noIp := if locals.isEmpty then problems.noIp ++ [ib] else problems.noIp
        badMtu :=
          if mtu.isInt cfg.ipoibMtu then problems.badMtu
          else problems.badMtu ++ [ib ++ "(mtu=" ++ mtu.text py ++ ")"] }

/-- `[f"ib{i}" for i in range(cfg.rails)]` -/
def expectedRails : List String := (List.range cfg.rails.toNat).map fun i => "ib" ++ toString i

/-- The parts of the detail, one for each kind of problem there is. -/
def RailProblems.texts (problems : RailProblems) : List String :=
  [("missing: ", problems.missing), ("down: ", problems.down), ("no-ip: ", problems.noIp),
    ("wrong-mtu (want " ++ toString cfg.ipoibMtu ++ "): ", problems.badMtu)].filterMap fun (label, rails) =>
      if rails = [] then none else some (label ++ ",".intercalate rails)

def checkIpoibRails : Except Raised CheckResult := do
  let name := "ipoib-rails"
  let records ← ipAddrJson py probe
  let problems ← (expectedRails cfg).foldlM (railProblems py cfg records) {}
  let texts := problems.texts cfg
  if texts = [] then
    .ok ⟨name, .pass, toString cfg.rails ++ " IPoIB rails up, addressed, MTU " ++ toString cfg.ipoibMtu⟩
  else .ok ⟨name, .fail, "; ".intercalate texts⟩

/-- `{line.split()[0] for line in proc.out.splitlines()[1:] if line.split()}` -/
def loadedModules (out : String) : List (List Char) :=
  (splitlines out).tail.filterMap fun line => (split line).head?

/-- `required`, in order. -/
def requiredModules : List String := ["ib_ipoib", "mlx5_ib"]

def checkIbModules : Except Raised CheckResult :=
  let name := "ib-modules"
  let proc := probe.run ["lsmod"]
  if proc.rc ≠ 0 then .ok ⟨name, .skip, "lsmod unavailable"⟩
  else
    let missing := requiredModules.filter fun m => !(loadedModules proc.out).contains m.toList
    if missing = [] then .ok ⟨name, .pass, "mlx5_ib + ib_ipoib loaded"⟩
    else .ok ⟨name, .fail, "missing kernel module(s): " ++ ",".intercalate missing⟩

def checkNoSoftRoce : Except Raised CheckResult :=
  let name := "no-soft-roce"
  let proc := probe.run ["lsmod"]
  if proc.rc ≠ 0 then .ok ⟨name, .skip, "lsmod unavailable"⟩
  else if (loadedModules proc.out).contains "rdma_rxe".toList then
    .ok ⟨name, .warn, "rdma_rxe loaded — H200 should use native IB, not Soft-RoCE"⟩
  else .ok ⟨name, .pass, "rdma_rxe not loaded (native IB)"⟩

/-- What `ibstat` prints after the colon of each line that starts with `State:`. -/
def portStates (out : String) : List (List Char) :=
  (splitlines out).filterMap fun line =>
    if "State:".toList.isPrefixOf (strip line) then some (strip ((line.dropWhile (· ≠ ':')).tail)) else none

def checkIbPorts : Except Raised CheckResult :=
  let name := "ib-ports"
  if !probe.haveTool "ibstat" then .ok ⟨name, .skip, "ibstat not installed (infiniband-diags)"⟩
  else
    let proc := probe.run ["ibstat"]
    if proc.rc ≠ 0 then .ok ⟨name, .warn, "ibstat returned non-zero (no HCA?)"⟩
    else
      let states := portStates proc.out
      if states = [] then .ok ⟨name, .warn, "no IB ports reported"⟩
      else
        let active := states.countP fun s => "active".toList.isPrefixOf (lower s)
        let shown := toString active ++ "/" ++ toString states.length ++ " ports Active"
        if active = states.length then .ok ⟨name, .pass, shown⟩
        else .ok ⟨name, .warn, shown ++ " (rest Initializing → no subnet manager?)"⟩

def checkVerbsDevices : Except Raised CheckResult :=
  let name := "verbs-devices"
  if !probe.haveTool "ibv_devinfo" then .ok ⟨name, .skip, "ibv_devinfo not installed (ibverbs-utils)"⟩
  else
    let proc := probe.run ["ibv_devinfo", "-l"]
    let text := String.ofList (lower (strip proc.out.toList))
    if proc.rc ≠ 0 || !printsText proc.out then .ok ⟨name, .warn, "no verbs devices found"⟩
    else if isIn "rxe" text then .ok ⟨name, .warn, "verbs device is rxe (Soft-RoCE), expected mlx5"⟩
    else if isIn "mlx5" text then .ok ⟨name, .pass, "mlx5 HCA verbs device(s) present"⟩
    else .ok ⟨name, .pass, "verbs device(s) present"⟩

def checkMemlock : Except Raised CheckResult :=
  let name := "memlock"
  if (probe.readText cfg.rdmaLimitsPath).any fun text => isIn "memlock" text && isIn "unlimited" text then
    .ok ⟨name, .pass, "memlock unlimited configured"⟩
  else if strip (probe.run ["sh", "-c", "ulimit -l"]).out.toList = "unlimited".toList then
    .ok ⟨name, .pass, "ulimit -l unlimited"⟩
  else .ok ⟨name, .warn, "memlock not unlimited (RDMA reg may fail on large buffers)"⟩

/-- `CHECKS`, on one host. -/
def checks : List (Except Raised CheckResult) :=
  [checkCloudInit py probe, checkNetplanConfig probe cfg, checkBondUp py probe cfg, checkBondLacp probe cfg,
    checkVlans py probe cfg, checkDefaultRoute probe, checkIpoibRails py probe cfg, checkIbModules probe,
    checkNoSoftRoce probe, checkIbPorts probe, checkVerbsDevices probe, checkMemlock probe cfg]

/-- `run_all` -/
def runAll : Except Raised (List CheckResult) := (checks py probe cfg).mapM id

end

/-! ## The reports -/

/-- `Summary.counts`, as `summarize` fills it. -/
def counts (results : List CheckResult) (status : Status) : Nat := results.countP (·.status = status)

/-- `summarize(results).failed` -/
def failed (results : List CheckResult) : Nat := counts results .fail

def verdict (results : List CheckResult) : String := if failed results ≠ 0 then "FAIL" else "OK"

/-- `_MARK` -/
def Status.mark (status : Status) : String := "[" ++ status.value ++ "]"

/-- `str.ljust` -/
def ljust (s : String) (width : Nat) : String := s ++ String.ofList (List.replicate (width - s.length) ' ')

/-- The lines of the report above the verdict. -/
def reportBody (results : List CheckResult) (hostname : String) : List String :=
  let width := (results.map (·.name.length)).foldr max 0
  ["", "H200 host validation" ++ (if hostname = "" then "" else " — " ++ hostname),
      String.ofList (List.replicate 60 '=')] ++
    results.map (fun r => r.status.mark ++ "  " ++ ljust r.name width ++ "  " ++ r.detail) ++
    [String.ofList (List.replicate 60 '-'),
      toString (counts results .pass) ++ " passed, " ++ toString (counts results .warn) ++ " warned, " ++
        toString (counts results .skip) ++ " skipped, " ++ toString (counts results .fail) ++ " failed"]

/-- `render_report` -/
def renderReport (results : List CheckResult) (hostname : String) : String :=
  "\n".intercalate (reportBody results hostname ++ ["verdict: " ++ verdict results, ""])

/-- The payload of `render_json`. -/
def payload (results : List CheckResult) : Json :=
  .obj [("checks", .arr (results.map fun r =>
      .obj [("name", .str r.name), ("status", .str r.status.value), ("detail", .str r.detail)])),
    ("summary", .obj ([Status.pass, .warn, .skip, .fail].map fun st => (st.value, .int (counts results st)))),
    ("verdict", .str (verdict results))]

/-- `render_json` -/
def renderJson (py : Python) (results : List CheckResult) : String := py.dumps (payload results)

def exitStatus (results : List CheckResult) : Nat := if failed results ≠ 0 then 1 else 0

structure Args where
  rails : Int := 8
  ipoibMtu : Int := 2044
  vlanCount : Int := 3
  json : Bool := false

def Args.config (args : Args) : Config :=
  { rails := args.rails, ipoibMtu := args.ipoibMtu, vlanCount := args.vlanCount }

/-- `main`, after the arguments are parsed: what is printed, and the exit status. -/
def main (py : Python) (probe : Probe) (args : Args) : Except Raised (String × Nat) := do
  let results ← runAll py probe args.config
  .ok ((if args.json then renderJson py results else renderReport results "") ++ "\n", exitStatus results)

end Scripts
end HostConfig
