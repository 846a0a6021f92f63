import HostConfig.Lib.Wiring
import HostConfig.Render.Devices
import HostConfig.Vms.Launch

/-!
# `Vms.Wires` — the NICs a QEMU command line wires

QEMU reads its command line from left to right: an option and its value, whose properties stand between
commas. A `-netdev` declares an id, a `-device` refers to one, and a `-device` may carry a MAC.
`buildCmdline` writes them in pairs (`options_cmdline`), so the line is wired when the ids are told apart:
fixed ids beside the names of the RoCE NICs with a digit appended (`wires_nodup`).

For an intent without InfiniBand underlays the MACs on the line are those its rendered network-config
matches (`wellWired_launch`).
-/

namespace HostConfig
namespace Vms

open Models Netbox Render StableSort Traverse Wiring

/-! ## Reading a command line -/

/-- The options with their values, in order; of those the launcher writes only `-enable-kvm` takes none. -/
def readOptions : List String → List (String × String)
  | []                   => []
  | [opt]                => [(opt, "")]
  | opt :: value :: rest =>
      if opt = "-enable-kvm" then (opt, "") :: readOptions (value :: rest) else
        (opt, value) :: readOptions rest

/-- The options behind the name of the binary. -/
def options (cmdline : List String) : List (String × String) := readOptions cmdline.tail

/-- The value of a property, if the piece is one of that key. -/
def property (key piece : String) : Option String :=
  if (key ++ "=").toList.isPrefixOf piece.toList then
    some (String.ofList (piece.toList.drop (key ++ "=").toList.length))
  else none

/-- What an option's value gives for a key. -/
def properties (key value : String) : List String :=
  ((value.toList.splitOn ',').map String.ofList).filterMap (property key)

/-- The ids a `-netdev` declares. -/
def netdevIds (option : String × String) : Option (List String) :=
  if option.1 = "-netdev" then some (properties "id" option.2) else none

/-- The ids a `-device` refers to. -/
def deviceIds (option : String × String) : Option (List String) :=
  if option.1 = "-device" then some (properties "netdev" option.2) else none

/-- The MACs of all devices, in order. -/
def deviceMacs (cmdline : List String) : List String :=
  (options cmdline).flatMap fun option => if option.1 = "-device" then properties "mac" option.2 else []

/-- Every `-netdev` has one id and the ids are distinct; every `-device` is on exactly one `-netdev` before
    it, and every `-netdev` has exactly one `-device`. -/
structure WellWired (cmdline : List String) : Prop where
  oneId : ∀ ids ∈ (options cmdline).filterMap netdevIds, ∃ id, ids = [id]
  wired : Wired netdevIds deviceIds (options cmdline)

/-! ## One pair of options -/

/-- A NIC of the VM: the values of its two options, and what they say. -/
structure Wire where
  netdev : String
  device : String
  id : String
  mac : Option String

/-- The values read back as what they were written for. -/
structure Wire.Reads (w : Wire) : Prop where
  declares : properties "id" w.netdev = [w.id]
  refers : properties "netdev" w.device = [w.id]
  macs : properties "mac" w.device = w.mac.toList

def Wire.netdevOption (w : Wire) : String × String := ("-netdev", w.netdev)

def Wire.deviceOption (w : Wire) : String × String := ("-device", w.device)

/-- A NIC on a tap. -/
def Wire.tap (id tap mac : String) : Wire := ⟨tapNetdev id tap, tapDevice id mac, id, some mac⟩

/-- The NIC for out-of-band access. -/
def Wire.slirp (suffix : String) : Wire := ⟨"user,id=mgmt0" ++ suffix, "virtio-net-pci,netdev=mgmt0", "mgmt0", none⟩

section

variable {key : String}

theorem property_self {label : String} (h : label = key ++ "=") (value : String) :
    property key (label ++ value) = some value := by
  unfold property
  rw [← h, String.toList_append, if_pos (List.isPrefixOf_iff_prefix.mpr (List.prefix_append _ _)),
    List.drop_left,
    String.ofList_toList]

/-- A piece that starts like no property of that key. -/
theorem property_other {label : String} (h : (key ++ "=").toList.isPrefixOf label.toList = false)
    (h' : label.toList.isPrefixOf (key ++ "=").toList = false) (value : String) :
    property key (label ++ value) = none := by
  unfold property
  apply if_neg
  intro hprefix
  have happend : (label ++ value).toList = label.toList ++ value.toList := String.toList_append
  rw [happend, List.isPrefixOf_iff_prefix] at hprefix
  rw [Bool.eq_false_iff, ne_eq, List.isPrefixOf_iff_prefix] at h h'
  rcases List.prefix_or_prefix_of_prefix hprefix (List.prefix_append label.toList value.toList) with hkey |
    hlabel
  · exact h hkey
  · exact h' hlabel

/-- The properties of a value that is pieces between commas. -/
theorem properties_intercalate {pieces : List String} (hcomma : ∀ piece ∈ pieces, ',' ∉ piece.toList)
    (hne : pieces ≠ []) : properties key (",".intercalate pieces) = pieces.filterMap (property key) := by
  have hsplit : (([','].intercalate (pieces.map String.toList)).splitOn ',').map String.ofList = pieces := by
    rw [List.splitOn_intercalate ',' ?_ (by simpa using hne), List.map_map]
    · simp [Function.comp_def]
    · intro piece hpiece
      obtain ⟨text, htext, rfl⟩ := List.mem_map.mp hpiece
      exact hcomma text htext
  unfold properties
  rw [String.toList_intercalate, show ",".toList = [','] from rfl, hsplit]

theorem comma_notMem_append {label value : String} (hlabel : ',' ∉ label.toList)
    (hvalue : ',' ∉ value.toList) : ',' ∉ (label ++ value).toList := by
  rw [String.toList_append, List.mem_append, not_or]
  exact ⟨hlabel, hvalue⟩

/-! ### A tap -/

section

variable {id tap mac : String} (hid : ',' ∉ id.toList) (htap : ',' ∉ tap.toList) (hmac : ',' ∉ mac.toList)

include hid htap in
theorem properties_tapNetdev (key : String) : properties key (tapNetdev id tap) =
    ["tap", "id=" ++ id, "ifname=" ++ tap, "script=no", "downscript=no"].filterMap
      (property key) := by
  have hvalue : tapNetdev id tap =
      ",".intercalate ["tap", "id=" ++ id, "ifname=" ++ tap, "script=no", "downscript=no"] := by
    have hhead : "tap,id=" = "tap" ++ ("," ++ "id=") := by decide
    have hifname : ",ifname=" = "," ++ "ifname=" := by decide
    have htail : ",script=no,downscript=no" = "," ++ ("script=no" ++ ("," ++ "downscript=no")) := by decide
    unfold tapNetdev
    rw [hhead, hifname, htail]
    simp only [String.intercalate_cons_cons, String.intercalate_singleton, String.append_assoc]
  rw [hvalue]
  apply properties_intercalate
  · intro piece hpiece
    simp only [List.mem_cons, List.not_mem_nil, or_false] at hpiece
    rcases hpiece with rfl | rfl | rfl | rfl | rfl
    · decide
    · exact comma_notMem_append (by decide) hid
    · exact comma_notMem_append (by decide) htap
    · decide
    · decide
  · exact List.cons_ne_nil _ _

include hid hmac in
theorem properties_tapDevice (key : String) : properties key (tapDevice id mac) =
    ["virtio-net-pci", "netdev=" ++ id, "mac=" ++ mac].filterMap (property key) := by
  have hvalue : tapDevice id mac = ",".intercalate ["virtio-net-pci", "netdev=" ++ id, "mac=" ++ mac] := by
    have hhead : "virtio-net-pci,netdev=" = "virtio-net-pci" ++ ("," ++ "netdev=") := by decide
    have hmac : ",mac=" = "," ++ "mac=" := by decide
    unfold tapDevice
    rw [hhead, hmac]
    simp only [String.intercalate_cons_cons, String.intercalate_singleton, String.append_assoc]
  rw [hvalue]
  apply properties_intercalate
  · intro piece hpiece
    simp only [List.mem_cons, List.not_mem_nil, or_false] at hpiece
    rcases hpiece with rfl | rfl | rfl
    · decide
    · exact comma_notMem_append (by decide) hid
    · exact comma_notMem_append (by decide) hmac
  · exact List.cons_ne_nil _ _

include hid htap hmac in
/-- **The values for a tap read back**, where what is put in has no comma. -/
theorem tap_reads : (Wire.tap id tap mac).Reads := by
  constructor
  case declares =>
    show properties "id" (tapNetdev id tap) = [id]
    rw [properties_tapNetdev hid htap, List.filterMap_cons_none (by decide),
      List.filterMap_cons_some (property_self (by decide) id),
      List.filterMap_cons_none (property_other (by decide) (by decide) tap),
        List.filterMap_cons_none (by decide),
      List.filterMap_cons_none (by decide), List.filterMap_nil]
  case refers =>
    show properties "netdev" (tapDevice id mac) = [id]
    rw [properties_tapDevice hid hmac, List.filterMap_cons_none (by decide),
      List.filterMap_cons_some (property_self (by decide) id),
      List.filterMap_cons_none (property_other (by decide) (by decide) mac), List.filterMap_nil]
  case macs =>
    show properties "mac" (tapDevice id mac) = [mac]
    rw [properties_tapDevice hid hmac, List.filterMap_cons_none (by decide),
      List.filterMap_cons_none (property_other (by decide) (by decide) id),
      List.filterMap_cons_some (property_self (by decide) mac), List.filterMap_nil]

end

/-! ### The SLIRP NIC -/

theorem comma_notMem_toString (n : Int) : ',' ∉ (toString n).toList := by
  have hnat : ∀ n : Nat, ',' ∉ n.repr.toList := by
    intro n
    rw [Nat.toList_repr]
    exact IPv4Address.notMem_toDigits (by decide) n
  cases n with
  | ofNat n => exact hnat n
  | negSucc n =>
    show ',' ∉ ("-" ++ (n + 1).repr).toList
    exact comma_notMem_append (by decide) (hnat _)

/-- A suffix of the SLIRP options: nothing, or one more piece, which is of no id. -/
def IsSuffix (suffix : String) : Prop :=
  suffix = "" ∨ ∃ piece, suffix = "," ++ piece ∧ ',' ∉ piece.toList ∧ property "id" piece = none

theorem isSuffix_hostfwd (port : Option Int) : IsSuffix (slirpHostfwdSuffix port) := by
  cases port with
  | none => exact .inl rfl
  | some port =>
    refine .inr ⟨"hostfwd=tcp::" ++ (toString port ++ "-:22"), ?_, ?_, ?_⟩
    · have hhead : ",hostfwd=tcp::" = "," ++ "hostfwd=tcp::" := by decide
      unfold slirpHostfwdSuffix
      rw [hhead]
      simp only [String.append_assoc]
    · exact comma_notMem_append (by decide) (comma_notMem_append (comma_notMem_toString port) (by decide))
    · exact property_other (by decide) (by decide) _

theorem comma_notMem_local {host : String} (h : localHostnames.contains host = true) : ',' ∉ host.toList := by
  simp only [localHostnames, List.contains_iff_mem, List.mem_cons, List.not_mem_nil, or_false] at h
  rcases h with rfl | rfl | rfl <;> decide

theorem isSuffix_guestfwd {urlparse : UrlParse} {seedServer suffix : String}
    (h : slirpGuestfwdSuffix urlparse seedServer = .ok suffix) : IsSuffix suffix := by
  obtain ⟨parsed, -, h⟩ := bind_eq_ok.mp h
  cases hlocal : localHostnames.contains parsed.host with
  | false =>
    simp only [hlocal, Bool.not_false, if_true] at h
    exact .inl (Except.ok.inj h).symm
  | true =>
    simp only [hlocal, Bool.not_true, Bool.false_eq_true, if_false] at h
    obtain ⟨port, -, h⟩ := bind_eq_ok.mp h
    have hhead : ",guestfwd=tcp:" = "," ++ "guestfwd=tcp:" := by decide
    refine .inr ⟨"guestfwd=tcp:" ++ (slirpGuestfwdIp ++ (":" ++ (toString port ++ ("-tcp:" ++ (parsed.host ++
      (":" ++ toString port)))))), ?_, ?_, ?_⟩
    · rw [← Except.ok.inj h, hhead]
      simp only [String.append_assoc]
    · have hport := comma_notMem_toString port
      exact comma_notMem_append (by decide) (comma_notMem_append (by decide) (comma_notMem_append (by decide)
        (comma_notMem_append hport (comma_notMem_append (by decide) (comma_notMem_append (comma_notMem_local hlocal)
          (comma_notMem_append (by decide) hport))))))
    · exact property_other (by decide) (by decide) _

/-- A suffix appends the piece it is of, or nothing. -/
theorem exists_append_of_isSuffix {suffix : String} (h : IsSuffix suffix) : ∃ extra : List String,
    (∀ pieces : List String, pieces ≠ [] → ",".intercalate pieces ++
      suffix = ",".intercalate (pieces ++ extra)) ∧
      ∀ piece ∈ extra, ',' ∉ piece.toList ∧ property "id" piece = none := by
  rcases h with rfl | ⟨piece, rfl, hpiece⟩
  · refine ⟨[], ?_, by simp⟩
    intro pieces _
    rw [String.append_empty, List.append_nil]
  · refine ⟨[piece], ?_, by simpa using hpiece⟩
    intro pieces hpieces
    rw [String.intercalate_append_of_ne_nil hpieces (List.cons_ne_nil _ _), String.intercalate_singleton,
      String.append_assoc]

theorem slirp_reads {guestfwd hostfwd : String} (hguest : IsSuffix guestfwd) (hhost : IsSuffix hostfwd) :
    (Wire.slirp (guestfwd ++ hostfwd)).Reads := by
  -- the two suffixes add pieces of the value, none of which has one of the keys
  obtain ⟨extra, hextra, hpieces⟩ := exists_append_of_isSuffix hguest
  obtain ⟨extra', hextra', hpieces'⟩ := exists_append_of_isSuffix hhost
  have hvalue : "user,id=mgmt0" ++ (guestfwd ++ hostfwd) = ",".intercalate
      (["user", "id=mgmt0"] ++ extra ++ extra') := by
    have hhead : "user,id=mgmt0" = ",".intercalate ["user", "id=mgmt0"] := by decide
    rw [hhead, ← String.append_assoc, hextra _ (List.cons_ne_nil _ _), hextra' _ (by simp)]
  have hdevice : "virtio-net-pci,netdev=mgmt0" = ",".intercalate ["virtio-net-pci", "netdev=mgmt0"] := by
    decide
  constructor
  case declares =>
    show properties "id" ("user,id=mgmt0" ++ (guestfwd ++ hostfwd)) = ["mgmt0"]
    rw [hvalue, properties_intercalate ?_ (by simp), List.filterMap_append, List.filterMap_append,
      List.filterMap_eq_nil_iff.mpr fun piece hpiece => (hpieces piece hpiece).2,
      List.filterMap_eq_nil_iff.mpr fun piece hpiece => (hpieces' piece hpiece).2]
    · decide
    · intro piece hpiece
      rcases List.mem_append.mp hpiece with hpiece | hpiece
      · rcases List.mem_append.mp hpiece with hpiece | hpiece
        · rcases List.mem_pair.mp hpiece with rfl | rfl <;> decide
        · exact (hpieces piece hpiece).1
      · exact (hpieces' piece hpiece).1
  case refers =>
    show properties "netdev" "virtio-net-pci,netdev=mgmt0" = ["mgmt0"]
    decide
  case macs =>
    show properties "mac" "virtio-net-pci,netdev=mgmt0" = []
    decide

end

/-! ## The whole line -/

/-- The options before the first NIC. -/
def machineOptions (assetTag seedUrl : String) (params : LaunchParams) : List (String × String) :=
  [("-enable-kvm", ""), ("-m", toString params.memoryMib), ("-smp", toString params.vcpus), ("-cpu", "host"),
    ("-drive", "file=" ++ params.imagePath ++ ",format=qcow2,if=virtio,snapshot=on"),
    ("-smbios", "type=1,serial=ds=nocloud-net;s=" ++ seedUrl), ("-smbios", "type=3,asset=" ++ assetTag)]

/-- The NIC of a RoCE underlay. -/
def RoceNic.wire (nic : RoceNic) : Wire := .tap (nic.name ++ "0") nic.tap nic.mac

/-- All NICs of the VM, in the order of the line. -/
def wires (suffix nsaMac nsbMac : String) (nics : List RoceNic) (params : LaunchParams) : List Wire :=
  .slirp suffix :: .tap "nsa0" params.tapNsa nsaMac :: .tap "nsb0" params.tapNsb nsbMac ::
    nics.map RoceNic.wire

def wireOptions (ws : List Wire) : List (String × String) :=
  ws.flatMap fun w => [w.netdevOption, w.deviceOption]

theorem readOptions_cons {opt value : String} (h : opt ≠ "-enable-kvm") (rest : List String) :
    readOptions (opt :: value :: rest) = (opt, value) :: readOptions rest := if_neg h

theorem readOptions_roceArgs (nics : List RoceNic) (rest : List String) :
    readOptions (nics.flatMap roceArgs ++ rest) = wireOptions (nics.map RoceNic.wire) ++
      readOptions rest := by
  induction nics with
  | nil => rfl
  | cons nic nics ih =>
    show readOptions ("-netdev" :: tapNetdev (nic.name ++ "0") nic.tap :: "-device" ::
      tapDevice (nic.name ++ "0") nic.mac :: (nics.flatMap roceArgs ++ rest)) = _
    rw [readOptions_cons (by decide), readOptions_cons (by decide), ih]
    rfl

section

variable {urlparse : UrlParse} {assetTag nsaMac nsbMac : String} {nics : List RoceNic} {params : LaunchParams}
  {cmdline : List String}

/-- **What the line says**: the options of the machine, a pair for each NIC, and no display. -/
theorem options_cmdline (h : buildCmdline urlparse assetTag nsaMac nsbMac nics params = .ok cmdline)
    (hextra : params.extraQemuArgs = []) : ∃ seedUrl guestfwd, IsSuffix guestfwd ∧ options cmdline =
      machineOptions assetTag seedUrl params ++
        wireOptions (wires (guestfwd ++ slirpHostfwdSuffix params.sshHostPort) nsaMac nsbMac nics params) ++
        [("-display", "none")] := by
  obtain ⟨seedUrl, -, h⟩ := bind_eq_ok.mp h
  obtain ⟨guestfwd, hguestfwd, h⟩ := bind_eq_ok.mp h
  refine ⟨seedUrl, guestfwd, isSuffix_guestfwd hguestfwd, ?_⟩
  rw [← Except.ok.inj h, hextra, List.append_nil, List.append_assoc]
  unfold options
  simp only [List.cons_append, List.nil_append, List.tail_cons]
  rw [readOptions, if_pos rfl]
  repeat rw [readOptions_cons (by decide)]
  rw [readOptions_roceArgs, readOptions_cons (by decide)]
  simp [machineOptions, wireOptions, wires, Wire.slirp, Wire.tap, Wire.netdevOption,
    Wire.deviceOption, readOptions,
    String.append_assoc]

end

/-- An option that wires nothing. -/
def Plain (option : String × String) : Prop := option.1 ≠ "-netdev" ∧ option.1 ≠ "-device"

theorem plain_machineOptions {assetTag seedUrl : String} {params : LaunchParams} :
    ∀ option ∈ machineOptions assetTag seedUrl params, Plain option := by
  intro option hoption
  unfold machineOptions at hoption
  simp only [List.mem_cons, List.not_mem_nil, or_false] at hoption
  unfold Plain
  rcases hoption with rfl | rfl | rfl | rfl | rfl | rfl | rfl <;> exact ⟨by simp, by simp⟩

section

variable {ws : List Wire} {before after : List (String × String)} {cmdline : List String}
  (hreads : ∀ w ∈ ws, w.Reads) (hplain : ∀ option ∈ before ++ after, Plain option)
  (hoptions : options cmdline = before ++ wireOptions ws ++ after)

theorem netdevIds_wireOptions (hreads : ∀ w ∈ ws, w.Reads) :
    (wireOptions ws).filterMap netdevIds = ws.map fun w => [w.id] := by
  apply filterMap_first
  · intro w hw
    show some (properties "id" w.netdev) = _
    rw [(hreads w hw).declares]
  · intro w _
    rfl

include hreads hplain hoptions

/-- **A line of pairs with distinct ids is wired.** -/
theorem wellWired_of_pairs (hnodup : (ws.map (·.id)).Nodup) : WellWired cmdline := by
  -- of all options only the pairs declare or refer
  have hrelevant : (options cmdline).filter (relevant netdevIds deviceIds) = wireOptions ws := by
    have hnone : ∀ l : List (String × String), (∀ option ∈ l, Plain option) →
        l.filter (relevant netdevIds deviceIds) = [] := by
      intro l hl
      apply List.filter_eq_nil_iff.mpr
      intro option hoption
      obtain ⟨hnetdev, hdevice⟩ := hl option hoption
      simp [relevant, netdevIds, deviceIds, hnetdev, hdevice]
    have hall : (wireOptions ws).filter (relevant netdevIds deviceIds) = wireOptions ws := by
      apply List.filter_eq_self.mpr
      intro option hoption
      obtain ⟨w, -, hoption⟩ := List.mem_flatMap.mp hoption
      rcases List.mem_pair.mp hoption with rfl | rfl <;> rfl
    rw [hoptions, List.filter_append, List.filter_append, hall,
      hnone before fun option h => hplain option (List.mem_append_left _ h),
      hnone after fun option h => hplain option (List.mem_append_right _ h), List.nil_append, List.append_nil]
  constructor
  case oneId =>
    intro ids hids
    rw [← (filterMap_filter_relevant netdevIds deviceIds _).1, hrelevant,
      netdevIds_wireOptions hreads] at hids
    obtain ⟨w, -, rfl⟩ := List.mem_map.mp hids
    exact ⟨w.id, rfl⟩
  case wired =>
    apply Wired.of_filter
    rw [hrelevant]
    have hdeclares : ∀ w ∈ ws, netdevIds w.netdevOption = some [w.id] := by
      intro w hw
      show some (properties "id" w.netdev) = _
      rw [(hreads w hw).declares]
    have hrefers : ∀ w ∈ ws, deviceIds w.deviceOption = some [w.id] := by
      intro w hw
      show some (properties "netdev" w.device) = _
      rw [(hreads w hw).refers]
    refine wired_flatMap hdeclares hrefers (fun _ _ => rfl) (fun _ _ => rfl) ?_
    have hids : (ws.map fun w => [w.id]) = (ws.map (·.id)).map fun id => [id] := by
      rw [List.map_map]
      rfl
    rw [hids, List.nodup_map_iff List.singleton_injective]
    exact hnodup

/-- The MACs of the line are those of its NICs. -/
theorem deviceMacs_of_pairs : deviceMacs cmdline = ws.flatMap (·.mac.toList) := by
  have hnone : ∀ l : List (String × String), (∀ option ∈ l, Plain option) →
      (l.flatMap fun option => if option.1 = "-device" then properties "mac" option.2 else []) = [] := by
    intro l hl
    apply List.flatMap_eq_nil_iff.mpr
    intro option hoption
    exact if_neg (hl option hoption).2
  have hpairs : ∀ ws : List Wire, (∀ w ∈ ws, w.Reads) →
      ((wireOptions ws).flatMap fun option => if option.1 = "-device" then
        properties "mac" option.2 else []) =
        ws.flatMap (·.mac.toList) := by
    intro ws hreads
    unfold wireOptions
    rw [List.flatMap_assoc]
    apply List.flatMap_congr
    intro w hw
    rw [← (hreads w hw).macs]
    simp [Wire.netdevOption, Wire.deviceOption]
  unfold deviceMacs
  rw [hoptions, List.flatMap_append, List.flatMap_append, hpairs ws hreads,
    hnone before fun option h => hplain option (List.mem_append_left _ h),
    hnone after fun option h => hplain option (List.mem_append_right _ h), List.nil_append, List.append_nil]

end

/-! ## The launch of a loaded host -/

section

variable {client : Client} {assetTag : String} {i : HostIntent}

theorem comma_notMem_mac (mac : MacAddress) : ',' ∉ mac.val.toList := by
  intro hcomma
  have hmem := mem_symbols_macRe (Regex.mem_symbols_of_rmatch mac.canonical hcomma)
  revert hmem
  decide

/-- The RoCE underlays of a loaded intent have names of their class. -/
theorem isNumbered_of_ok (h : loadHostIntent client assetTag = .ok i) :
    ∀ nic ∈ i.roceUnderlays, isNumbered roceNicPrefix nic.name.val = true := by
  intro nic hnic
  obtain ⟨device, interfaces, hbuilt⟩ := built_of_ok h
  obtain ⟨roce, hroce, hsorted⟩ := hbuilt.parts.roceUnderlays
  obtain ⟨iface, hiface, hread⟩ := exists_of_mem_right hroce nic (hsorted.mem_iff.mp hnic)
  rw [hread.name]
  exact (List.mem_filter.mp hiface).2

theorem comma_notMem_numbered {name : String} (h : isNumbered roceNicPrefix name = true) :
    ',' ∉ name.toList := by
  rw [isNumbered, Bool.and_eq_true, List.isPrefixOf_iff_prefix] at h
  obtain ⟨⟨digits, hname⟩, hdigits⟩ := h
  rw [← hname] at hdigits ⊢
  rw [List.mem_append, not_or]
  refine ⟨by decide, ?_⟩
  intro hcomma
  have hlength : roceNicPrefix.length = roceNicPrefix.toList.length := rfl
  rw [hlength, List.drop_left, isdigit, Bool.and_eq_true] at hdigits
  have hdigit := List.all_eq_true.mp hdigits.2 ',' hcomma
  revert hdigit
  decide

/-- The N-S NICs are the two that are looked up. -/
theorem findMac_of_ok (h : loadHostIntent client assetTag = .ok i) :
    ∃ nsa nsb : BondMember, i.nsNics = [nsa, nsb] ∧
    findMac i "nsa" = .ok nsa.mac.val ∧ findMac i "nsb" = .ok nsb.mac.val := by
  obtain ⟨device, interfaces, hbuilt⟩ := built_of_ok h
  have hnames : i.nsNics.map (·.name.val) = ["nsa", "nsb"] := hbuilt.parts.nsNicNames
  obtain ⟨nsa, rest, hnics, hnsa, hrest⟩ := List.map_eq_cons_iff.mp hnames
  obtain ⟨nsb, rest', hnics', hnsb, hrest'⟩ := List.map_eq_cons_iff.mp hrest
  obtain rfl := List.map_eq_nil_iff.mp hrest'
  subst hnics'
  refine ⟨nsa, nsb, hnics, ?_, ?_⟩
  · unfold findMac
    rw [hnics]
    simp [hnsa]
  · unfold findMac
    rw [hnics]
    simp [hnsa, hnsb]

/-- The RoCE NICs are those of the intent. -/
theorem roceNics_perm (i : HostIntent) : (roceNics i).Perm
    (i.roceUnderlays.map fun nic => ⟨nic.name.val, nic.mac.val, "tap-" ++ nic.name.val⟩) :=
  (sortedBy_perm _ _).map _

/-- **The ids are distinct**: a digit is appended to names that are. -/
theorem wires_nodup (h : loadHostIntent client assetTag = .ok i) (suffix nsaMac nsbMac : String)
    (params : LaunchParams) : ((wires suffix nsaMac nsbMac (roceNics i) params).map (·.id)).Nodup := by
  have hids : (wires suffix nsaMac nsbMac (roceNics i) params).map (·.id) =
      ("mgmt" :: "nsa" :: "nsb" :: (roceNics i).map (·.name)).map (· ++ "0") := by
    unfold wires
    simp only [List.map_cons, List.map_map]
    rfl
  have hinj : Function.Injective fun name : String => name ++ "0" := by
    intro a b hab
    have hlists := congrArg String.toList hab
    simp only [String.toList_append] at hlists
    exact String.toList_inj.mp (List.append_cancel_right hlists)
  have hnames := (roceNics_perm i).map (·.name)
  rw [List.map_map] at hnames
  have hnodup : ((roceNics i).map (·.name)).Nodup := by
    refine hnames.nodup_iff.mpr ?_
    have hall := i.satisfies.uniqueNames
    rw [names_eq_nics] at hall
    unfold HostIntentFields.nics at hall
    simp only [List.map_append, List.map_map] at hall
    exact (List.nodup_append.mp (List.nodup_append.mp (List.nodup_append.mp hall).1).1).2.1
  -- no name of the class is one of the fixed ones
  have hfixed : ∀ name ∈ (roceNics i).map (·.name), name ∉ ["mgmt", "nsa", "nsb"] := by
    intro name hname
    obtain ⟨nic, hnic, rfl⟩ := List.mem_map.mp (hnames.mem_iff.mp hname)
    have hhead : nic.name.val.toList.head? = some 'g' := head_of_isNumbered rfl (isNumbered_of_ok h nic hnic)
    intro hmem
    simp only [Function.comp_apply, List.mem_cons, List.not_mem_nil, or_false] at hmem
    rcases hmem with heq | heq | heq <;> rw [heq] at hhead <;> revert hhead <;> decide
  rw [hids, List.nodup_map_iff hinj]
  show (["mgmt", "nsa", "nsb"] ++ (roceNics i).map (·.name)).Nodup
  apply List.Nodup.append
  · decide
  · exact hnodup
  · intro name hleft hright
    exact hfixed name hright hleft

/-- The MACs of the NICs on the taps are those of the intent. -/
theorem macs_perm_nics {nsa nsb : BondMember} (hns : i.nsNics = [nsa, nsb]) (hib : i.ibUnderlays = []) :
    ([nsa.mac.val, nsb.mac.val] ++ (roceNics i).map (·.mac)).Perm (i.nics.map (·.mac.val)) := by
  unfold HostIntentFields.nics
  rw [hns, hib]
  simp only [List.map_append, List.map_map, List.map_nil, List.append_nil, List.map_cons]
  refine List.Perm.append_left [nsa.mac.val, nsb.mac.val] ?_
  have hmacs := (roceNics_perm i).map (·.mac)
  rw [List.map_map] at hmacs
  exact hmacs

theorem wires_read (h : loadHostIntent client assetTag = .ok i) {guestfwd : String}
    (hguest : IsSuffix guestfwd)
    {params : LaunchParams} (hnsa : params.tapNsa = "tap-nsa") (hnsb : params.tapNsb = "tap-nsb")
    (nsaMac nsbMac : MacAddress) :
    ∀ w ∈ wires (guestfwd ++ slirpHostfwdSuffix params.sshHostPort) nsaMac.val nsbMac.val (roceNics i) params,
      w.Reads := by
  intro w hw
  unfold wires at hw
  rw [hnsa, hnsb] at hw
  rcases List.mem_cons.mp hw with rfl | hw
  · exact slirp_reads hguest (isSuffix_hostfwd _)
  rcases List.mem_cons.mp hw with rfl | hw
  · exact tap_reads (by decide) (by decide) (comma_notMem_mac nsaMac)
  rcases List.mem_cons.mp hw with rfl | hw
  · exact tap_reads (by decide) (by decide) (comma_notMem_mac nsbMac)
  · obtain ⟨nic, hnic, rfl⟩ := List.mem_map.mp hw
    obtain ⟨underlay, hunderlay, rfl⟩ := List.mem_map.mp ((roceNics_perm i).mem_iff.mp hnic)
    have hname := comma_notMem_numbered (isNumbered_of_ok h underlay hunderlay)
    exact tap_reads (comma_notMem_append hname (by decide)) (comma_notMem_append (by decide) hname)
      (comma_notMem_mac underlay.mac)

variable {urlparse : UrlParse} {params : LaunchParams} {launch : Launch}

theorem launchHost_eq_ok (hload : loadHostIntent client assetTag = .ok i)
    (h : launchHost urlparse client assetTag params = .ok launch) :
    ∃ nsa nsb : BondMember, i.nsNics = [nsa, nsb] ∧
      buildCmdline urlparse assetTag nsa.mac.val nsb.mac.val (roceNics i) params = .ok launch.cmdline ∧
      launch.macs = [nsa.mac.val, nsb.mac.val] ++ (roceNics i).map (·.mac) := by
  obtain ⟨nsa, nsb, hns, hnsa, hnsb⟩ := findMac_of_ok hload
  unfold launchHost at h
  rw [hload] at h
  obtain ⟨i', hi', h⟩ := bind_eq_ok.mp h
  obtain rfl : i = i' := Except.ok.inj hi'
  obtain ⟨nsaMac, hnsaMac, h⟩ := bind_eq_ok.mp h
  obtain rfl := Except.ok.inj (hnsa.symm.trans hnsaMac)
  obtain ⟨nsbMac, hnsbMac, h⟩ := bind_eq_ok.mp h
  obtain rfl := Except.ok.inj (hnsb.symm.trans hnsbMac)
  obtain ⟨cmdline, hcmdline, h⟩ := bind_eq_ok.mp h
  obtain rfl := Except.ok.inj h
  exact ⟨nsa, nsb, hns, hcmdline, rfl⟩

/-- The MACs of the handle are the ones on the line, in its order. -/
theorem deviceMacs_launch (hload : loadHostIntent client assetTag = .ok i)
    (hnsa : params.tapNsa = "tap-nsa") (hnsb : params.tapNsb = "tap-nsb") (hextra : params.extraQemuArgs = [])
    (h : launchHost urlparse client assetTag params = .ok launch) :
    WellWired launch.cmdline ∧ deviceMacs launch.cmdline = launch.macs := by
  obtain ⟨nsa, nsb, -, hbuild, hmacs⟩ := launchHost_eq_ok hload h
  obtain ⟨seedUrl, guestfwd, hguest, hoptions⟩ := options_cmdline hbuild hextra
  have hreads := wires_read hload hguest hnsa hnsb nsa.mac nsb.mac
  have hplain : ∀ option ∈ machineOptions assetTag seedUrl params ++ [("-display", "none")],
      Plain option := by
    intro option hoption
    rcases List.mem_append.mp hoption with hoption | hoption
    · exact plain_machineOptions option hoption
    · rw [List.mem_singleton.mp hoption]
      exact ⟨by simp, by simp⟩
  refine ⟨wellWired_of_pairs hreads hplain hoptions (wires_nodup hload _ _ _ params), ?_⟩
  rw [deviceMacs_of_pairs hreads hplain hoptions, hmacs]
  unfold wires
  simp only [List.flatMap_cons, List.flatMap_map]
  show [nsa.mac.val] ++ ([nsb.mac.val] ++ (roceNics i).flatMap fun nic => [nic.mac]) = _
  rw [← List.map_eq_flatMap]
  rfl

/-- **The command line of a launch wires the NICs of the rendered network-config.** -/
theorem wellWired_launch (hload : loadHostIntent client assetTag = .ok i) (hib : i.ibUnderlays = [])
    (hnsa : params.tapNsa = "tap-nsa") (hnsb : params.tapNsb = "tap-nsb") (hextra : params.extraQemuArgs = [])
    (hlaunch : launchHost urlparse client assetTag params = .ok launch) :
    WellWired launch.cmdline ∧ ∀ lines ∈ netplanDocuments i, ∃ doc, readNetplan lines = some doc ∧
      ((deviceMacs launch.cmdline).map Seg.str).Perm doc.matchedMacs := by
  obtain ⟨hwired, hdevices⟩ := deviceMacs_launch hload hnsa hnsb hextra hlaunch
  obtain ⟨nsa, nsb, hns, -, hmacs⟩ := launchHost_eq_ok hload hlaunch
  refine ⟨hwired, ?_⟩
  intro lines hlines
  obtain ⟨doc, hread, hmatched⟩ := matchedMacs_perm i lines hlines
  refine ⟨doc, hread, ?_⟩
  rw [hdevices, hmacs]
  exact ((macs_perm_nics hns hib).map Seg.str).trans hmatched.symm

end

/-- A seed server on the lab network: nothing is forwarded to it. -/
def seedParams : LaunchParams :=
  { seedServer := "http://10.42.10.1", imagePath := "/var/lib/images/noble.qcow2" }

/-- `urlparse` on the URL of that server. -/
def seedUrlparse : UrlParse :=
  fun _ => .ok { scheme := "http", hostname := some "10.42.10.1", port := .ok none }

/-- A RoCE NIC of the repository's `gpu-b300` fixture. -/
def gpuRecord (k : Nat) : InterfaceRecord :=
  let mac := "aa:bb:cc:00:00:1" ++ toString k
  { id := (20 + k : Nat), name := "gpu" ++ toString k, mtu := some 9000, primaryMacAddress := some ⟨some mac, mac⟩,
    customFields := some [("sriov_vfs", .int 0)] }

/-- The Netbox state of that fixture. -/
def b300Client : Client :=
  oneDevice "SN-GPU-001" { id := 1, name := some "gpu-b300-01", role := some ⟨some "gpu-b300"⟩ }
    ([nicRecord 10 "nsa" "aa:bb:cc:00:00:01", nicRecord 11 "nsb" "aa:bb:cc:00:00:02",
      { id := 12, name := "bond0", mtu := some 9000 },
      vlanRecord 13 "bond0.100" 1500 100 "mgmt", vlanRecord 14 "bond0.200" 9000 200 "storage",
      vlanRecord 15 "bond0.300" 1500 300 "ingress"] ++ (List.range 8).map gpuRecord)
    ([(13, "10.42.10.23/24"), (14, "10.42.20.23/24"), (15, "10.42.30.23/24")] ++
      (List.range 8).map fun k => (((20 + k : Nat) : Int), "10.42." ++ toString (100 + k) ++ ".23/24"))

/-- All ten NICs of the fixture are on the line, each on its own wire. -/
theorem wellWired_launch_b300 : ∃ i launch, loadHostIntent b300Client "SN-GPU-001" = .ok i ∧
    i.roceUnderlays.length = 8 ∧ launchHost seedUrlparse b300Client "SN-GPU-001" seedParams = .ok launch ∧
    WellWired launch.cmdline ∧ ∀ lines ∈ netplanDocuments i, ∃ doc, readNetplan lines = some doc ∧
      ((deviceMacs launch.cmdline).map Seg.str).Perm doc.matchedMacs := by
  have hrun : (loadHostIntent b300Client "SN-GPU-001").toOption.map
      (fun i => decide (i.ibUnderlays = [] ∧ i.roceUnderlays.length = 8)) = some true := by decide +kernel
  obtain ⟨i, hload, hunderlays⟩ := exists_ok_of_check hrun
  obtain ⟨hib, hroce⟩ := of_decide_eq_true hunderlays
  obtain ⟨nsa, nsb, -, hnsa, hnsb⟩ := findMac_of_ok hload
  have hlaunch : ∃ launch, launchHost seedUrlparse b300Client "SN-GPU-001" seedParams = .ok launch := by
    unfold launchHost
    rw [hload]
    refine ⟨_, bind_eq_ok.mpr ⟨i, rfl, bind_eq_ok.mpr ⟨_, hnsa,
      bind_eq_ok.mpr ⟨_, hnsb, bind_eq_ok.mpr ⟨_, rfl, rfl⟩⟩⟩⟩⟩
  obtain ⟨launch, hlaunch⟩ := hlaunch
  exact ⟨i, launch, hload, hroce, hlaunch, wellWired_launch hload hib rfl rfl rfl hlaunch⟩

end Vms
end HostConfig
