import HostConfig.Render.Line

/-!
# `Render.Templates` — the templates of the four roles

One definition per template file, under its role's namespace, on the context the emitter passes in. Within
one file kind the roles' templates repeat some blocks word for word (the loop over the N-S NICs, the bond,
the loop over the VLANs); each such block is one definition. The Netplan document is written out twice, as
in the source: `NetworkConfig` has the blocks of `network-config.j2`, `UserData` the ones embedded in
`user-data.j2`, with their own indentation and without the blank lines.
-/

namespace HostConfig
namespace Render

open Models

/-- A line of fixed text. -/
def text (indent : Nat) (s : String) : Line := ⟨indent, .raw [.lit s]⟩

/-! ## `meta-data.j2` -/

/-- The four `meta-data.j2` emit the same two lines. -/
def metaData (ctx : HostIntentFields) : List Line :=
  [⟨0, .field "instance-id" (.str ctx.assetTag.val)⟩,
   ⟨0, .field "local-hostname" (.str ctx.hostname.val)⟩]

/-! ## The blocks of `network-config.j2` -/

namespace NetworkConfig

/-- The document up to its Ethernet devices. -/
def header : List Line :=
  [⟨0, .key (.lit "network")⟩,
   ⟨2, .field "version" (.lit "2")⟩,
   ⟨2, .field "renderer" (.lit "networkd")⟩,
   .blank,
   ⟨2, .key (.lit "ethernets")⟩]

/-- The body of the loop over `ns_nics`. -/
def nsNic (nic : BondMember) : List Line :=
  [⟨4, .key (.str nic.name.val)⟩,
   ⟨6, .key (.lit "match")⟩,
   ⟨8, .field "macaddress" (.str nic.mac.val)⟩,
   ⟨6, .field "set-name" (.str nic.name.val)⟩,
   ⟨6, .field "mtu" (.int nic.mtu.val)⟩]

/-- The body of the loop over `roce_underlays`. -/
def roceUnderlay (nic : RoceUnderlay) : List Line :=
  [⟨4, .key (.str nic.name.val)⟩,
   ⟨6, .key (.lit "match")⟩,
   ⟨8, .field "macaddress" (.str nic.mac.val)⟩,
   ⟨6, .field "set-name" (.str nic.name.val)⟩,
   ⟨6, .field "mtu" (.int nic.mtu.val)⟩,
   ⟨6, .key (.lit "addresses")⟩,
   ⟨8, .item (.iface nic.address)⟩,
   ⟨6, .field "virtual-function-count" (.int nic.sriovVfs.val)⟩]

/-- The body of the loop over `ib_underlays`. -/
def ibUnderlay (nic : InfinibandUnderlay) : List Line :=
  [⟨4, .key (.str nic.name.val)⟩,
   ⟨6, .key (.lit "match")⟩,
   ⟨8, .field "macaddress" (.str nic.mac.val)⟩,
   ⟨6, .field "set-name" (.str nic.name.val)⟩,
   ⟨6, .field "mtu" (.int nic.mtu.val)⟩,
   ⟨6, .key (.lit "addresses")⟩,
   ⟨8, .item (.iface nic.address)⟩]

/-- The bond, with the loop over `bond.members`. -/
def bonds (bond : Bond) : List Line :=
  [.blank,
   ⟨2, .key (.lit "bonds")⟩,
   ⟨4, .key (.str bond.name.val)⟩,
   ⟨6, .key (.lit "interfaces")⟩] ++
  bond.members.map (fun member => ⟨8, .item (.str member)⟩) ++
  [⟨6, .field "mtu" (.int bond.mtu.val)⟩,
   ⟨6, .key (.lit "parameters")⟩,
   ⟨8, .field "mode" (.str bond.mode.value)⟩,
   ⟨8, .field "lacp-rate" (.str bond.lacpRate.value)⟩,
   ⟨8, .field "transmit-hash-policy" (.str bond.transmitHashPolicy.value)⟩]

/-- `if vlan.gateway is not none` -/
def routes : Option IPv4Address → List Line
  | none         => []
  | some gateway =>
      [⟨6, .key (.lit "routes")⟩,
       ⟨8, .itemField "to" (.lit "default")⟩,
       ⟨10, .field "via" (.ip gateway)⟩]

/-- `if vlan.search_domain is not none` -/
def search : Option String → List Line
  | none              => []
  | some searchDomain =>
      [⟨8, .key (.lit "search")⟩,
       ⟨10, .item (.str searchDomain)⟩]

/-- `if vlan.dns`: an empty list is false, and then the search domain is not emitted either. -/
def nameservers (dns : List IPv4Address) (searchDomain : Option String) : List Line :=
  if dns = [] then []
  else
    [⟨6, .key (.lit "nameservers")⟩,
     ⟨8, .key (.lit "addresses")⟩] ++
    dns.map (fun ns => ⟨10, .item (.ip ns)⟩) ++
    search searchDomain

/-- The body of the loop over `vlans`. -/
def vlan (vlan : VlanChild) : List Line :=
  [⟨4, .key (.str vlan.name.val)⟩,
   ⟨6, .field "id" (.int vlan.vlanId.val)⟩,
   ⟨6, .field "link" (.str vlan.parent.val)⟩,
   ⟨6, .field "mtu" (.int vlan.mtu.val)⟩,
   ⟨6, .key (.lit "addresses")⟩,
   ⟨8, .item (.iface vlan.address)⟩] ++
  routes vlan.gateway ++
  nameservers vlan.dns vlan.searchDomain

/-- The key above the loop over `vlans`. -/
def vlansHeader : List Line :=
  [.blank,
   ⟨2, .key (.lit "vlans")⟩]

end NetworkConfig

/-! ## The blocks of `user-data.j2` -/

namespace UserData

/-- The first line, which makes it a cloud-config, and the names of the host. -/
def identity (ctx : HostIntentFields) : List Line :=
  [text 0 "#cloud-config",
   ⟨0, .field "hostname" (.str ctx.hostname.val)⟩,
   ⟨0, .field "fqdn" (.str ctx.hostname.val)⟩,
   ⟨0, .field "manage_etc_hosts" (.lit "true")⟩]

/-- The `write_files` entry of the Netplan document, up to its content. -/
def netplanEntry : List Line :=
  [⟨2, .itemField "path" (.lit "/etc/netplan/60-lab.yaml")⟩,
   ⟨4, .field "permissions" (.lit "'0600'")⟩,
   ⟨4, .field "owner" (.lit "root:root")⟩,
   ⟨4, .field "content" (.lit "|")⟩]

/-- The embedded document up to its Ethernet devices. -/
def header : List Line :=
  [⟨6, .key (.lit "network")⟩,
   ⟨8, .field "version" (.lit "2")⟩,
   ⟨8, .field "renderer" (.lit "networkd")⟩,
   ⟨8, .key (.lit "ethernets")⟩]

/-- The body of the loop over `ns_nics`, embedded. -/
def nsNic (nic : BondMember) : List Line :=
  [⟨10, .key (.str nic.name.val)⟩,
   ⟨12, .key (.lit "match")⟩,
   ⟨14, .field "macaddress" (.str nic.mac.val)⟩,
   ⟨12, .field "set-name" (.str nic.name.val)⟩,
   ⟨12, .field "mtu" (.int nic.mtu.val)⟩]

/-- The body of the loop over `roce_underlays`, embedded. -/
def roceUnderlay (nic : RoceUnderlay) : List Line :=
  [⟨10, .key (.str nic.name.val)⟩,
   ⟨12, .key (.lit "match")⟩,
   ⟨14, .field "macaddress" (.str nic.mac.val)⟩,
   ⟨12, .field "set-name" (.str nic.name.val)⟩,
   ⟨12, .field "mtu" (.int nic.mtu.val)⟩,
   ⟨12, .key (.lit "addresses")⟩,
   ⟨14, .item (.iface nic.address)⟩,
   ⟨12, .field "virtual-function-count" (.int nic.sriovVfs.val)⟩]

/-- The body of the loop over `ib_underlays`, embedded. -/
def ibUnderlay (nic : InfinibandUnderlay) : List Line :=
  [⟨10, .key (.str nic.name.val)⟩,
   ⟨12, .key (.lit "match")⟩,
   ⟨14, .field "macaddress" (.str nic.mac.val)⟩,
   ⟨12, .field "set-name" (.str nic.name.val)⟩,
   ⟨12, .field "mtu" (.int nic.mtu.val)⟩,
   ⟨12, .key (.lit "addresses")⟩,
   ⟨14, .item (.iface nic.address)⟩]

/-- The bond, embedded. -/
def bonds (bond : Bond) : List Line :=
  [⟨8, .key (.lit "bonds")⟩,
   ⟨10, .key (.str bond.name.val)⟩,
   ⟨12, .key (.lit "interfaces")⟩] ++
  bond.members.map (fun member => ⟨14, .item (.str member)⟩) ++
  [⟨12, .field "mtu" (.int bond.mtu.val)⟩,
   ⟨12, .key (.lit "parameters")⟩,
   ⟨14, .field "mode" (.str bond.mode.value)⟩,
   ⟨14, .field "lacp-rate" (.str bond.lacpRate.value)⟩,
   ⟨14, .field "transmit-hash-policy" (.str bond.transmitHashPolicy.value)⟩]

/-- `if vlan.gateway is not none`, embedded. -/
def routes : Option IPv4Address → List Line
  | none         => []
  | some gateway =>
      [⟨12, .key (.lit "routes")⟩,
       ⟨14, .itemField "to" (.lit "default")⟩,
       ⟨16, .field "via" (.ip gateway)⟩]

/-- `if vlan.search_domain is not none`, embedded. -/
def search : Option String → List Line
  | none              => []
  | some searchDomain =>
      [⟨14, .key (.lit "search")⟩,
       ⟨16, .item (.str searchDomain)⟩]

/-- `if vlan.dns`, embedded: it guards the search domain, too. -/
def nameservers (dns : List IPv4Address) (searchDomain : Option String) : List Line :=
  if dns = [] then []
  else
    [⟨12, .key (.lit "nameservers")⟩,
     ⟨14, .key (.lit "addresses")⟩] ++
    dns.map (fun ns => ⟨16, .item (.ip ns)⟩) ++
    search searchDomain

/-- The body of the loop over `vlans`, embedded. -/
def vlan (vlan : VlanChild) : List Line :=
  [⟨10, .key (.str vlan.name.val)⟩,
   ⟨12, .field "id" (.int vlan.vlanId.val)⟩,
   ⟨12, .field "link" (.str vlan.parent.val)⟩,
   ⟨12, .field "mtu" (.int vlan.mtu.val)⟩,
   ⟨12, .key (.lit "addresses")⟩,
   ⟨14, .item (.iface vlan.address)⟩] ++
  routes vlan.gateway ++
  nameservers vlan.dns vlan.searchDomain

/-- The key above the embedded loop. -/
def vlansHeader : List Line := [⟨8, .key (.lit "vlans")⟩]

/-- The `write_files` entry for locked memory, as far as the two GPU families share it. -/
def memlockEntry (why : String) : List Line :=
  [⟨2, .itemField "path" (.lit "/etc/security/limits.d/rdma.conf")⟩,
   ⟨4, .field "owner" (.lit "root:root")⟩,
   ⟨4, .field "permissions" (.lit "\"0644\"")⟩,
   ⟨4, .field "content" (.lit "|")⟩,
   text 6 why,
   text 6 "# Required for ibv_reg_mr to succeed with large buffers.",
   text 6 "* hard memlock unlimited",
   text 6 "* soft memlock unlimited",
   .blank]

/-- The `write_files` entry that loads the InfiniBand and IPoIB modules at boot. -/
def infinibandEntry : List Line :=
  [⟨2, .itemField "path" (.lit "/etc/modules-load.d/infiniband.conf")⟩,
   ⟨4, .field "owner" (.lit "root:root")⟩,
   ⟨4, .field "permissions" (.lit "\"0644\"")⟩,
   ⟨4, .field "content" (.lit "|")⟩,
   text 6 "mlx5_ib",
   text 6 "ib_umad",
   text 6 "ib_uverbs",
   text 6 "rdma_ucm",
   text 6 "ib_ipoib",
   .blank]

end UserData

/-! ## `runcmd` of the GPU roles -/

/-- The body of the second loop over `roce_underlays`: one rxe device per NIC. -/
def rdmaLinkAdd (nic : RoceUnderlay) : List Line :=
  [⟨2, .item (.lit ">-")⟩,
   ⟨4, .raw [.lit "rdma link show rxe_", .str nic.name.val, .lit " > /dev/null 2>&1 ||"]⟩,
   ⟨4, .raw [.lit "rdma link add rxe_", .str nic.name.val, .lit " type rxe netdev ", .str nic.name.val,
     .lit " || true"]⟩]

/-- `runcmd` of a RoCE role up to the comment that names the role. -/
def roceRuncmdFixed : List Line :=
  [⟨0, .key (.lit "runcmd")⟩,
   text 2 "# Install Soft-RoCE userland + extra kernel modules FIRST, BEFORE applying",
   text 2 "# the lab Netplan config. Reason: the lab Netplan adds a default route via",
   text 2 "# the bond0.100 gateway (10.42.10.1) which doesn't exist in the lab. Once",
   text 2 "# netplan apply replaces the SLIRP DHCP default route with that broken",
   text 2 "# route, apt can no longer reach archive.ubuntu.com. Doing apt first uses",
   text 2 "# the SLIRP DHCP default route which works.",
   text 2 "#",
   text 2 "# Enable universe in Ubuntu 24.04's deb822-style sources file so apt can",
   text 2 "# find ibverbs-utils / rdmacm-utils.",
   ⟨2, .item (.lit ">-")⟩,
   text 4 "sed -i 's/^Components: main.*$/Components: main universe/'",
   text 4 "/etc/apt/sources.list.d/ubuntu.sources",
   text 2 "# Force IPv4 — QEMU SLIRP (user-mode networking) does not support IPv6.",
   text 2 "# linux-modules-extra-$(uname -r) ships rdma_rxe (Soft-RoCE driver, MAIN).",
   text 2 "# ibverbs-utils ships ibv_devinfo (B300 e2e asserts 8 rxe devices).",
   text 2 "# rdma-core ships the `rdma` CLI used to create rxe devices below.",
   text 2 "# rdmacm-utils ships `rping` (B300 e2e proves RDMA verbs end-to-end).",
   ⟨2, .item (.lit "DEBIAN_FRONTEND=noninteractive apt-get -o Acquire::ForceIPv4=true update")⟩,
   ⟨2, .item (.lit ">-")⟩,
   text 4 "DEBIAN_FRONTEND=noninteractive apt-get -o Acquire::ForceIPv4=true install -y",
   text 4 "\"linux-modules-extra-$(uname -r)\" ibverbs-utils rdma-core rdmacm-utils",
   text 2 "# NOW apply the Netplan network config so gpu[0..7] interfaces exist",
   text 2 "# under their final names before rdma link add references them.",
   ⟨2, .item (.lit "netplan apply")⟩,
   text 2 "# Poll for bond0 to be created by networkd. `networkctl wait-online`",
   text 2 "# accepts neither --interface= nor --timeout= in systemd 255 (Ubuntu",
   text 2 "# 24.04), so use a sh polling loop instead. `timeout 60` caps total wait",
   text 2 "# at 60s — bond0 normally appears in <10s once networkd processes the",
   text 2 "# bond .netdev file.",
   ⟨2, .item (.lit "timeout 60 sh -c 'until ip link show bond0 >/dev/null 2>&1; do sleep 1; done' || true")⟩,
   text 2 "# Load the Soft-RoCE kernel module.",
   text 2 "# || true: rdma_rxe install may still fail in offline environments;",
   text 2 "# treat a missing module as non-fatal so cloud-init does not exit 1",
   text 2 "# and block every other test. The rdma e2e tests will fail with a",
   text 2 "# clear assertion in that case.",
   ⟨2, .item (.lit "modprobe rdma_rxe || true")⟩,
   text 2 "# Create one rxe device per east-west NIC, skipping if already present.",
   text 2 "# || true: if rdma_rxe is not loaded, rdma link add exits 1 (\"Invalid",
   text 2 "# argument\"). Keep it non-fatal for the same reason as modprobe above."]

/-- `runcmd` of a RoCE role up to the loop. -/
def roceRuncmdHead (role : String) : List Line :=
  roceRuncmdFixed ++ [text 2 ("# Names match the " ++ role ++ " network-config (gpu0..gpu7 after Netplan renames).")]

/-- `runcmd` of a RoCE role after the loop. -/
def roceRuncmdTail : List Line :=
  [text 2 "# Pin every RoCE device to RoCEv2 (routable, UDP/4791) — the mode NCCL/UCX",
   text 2 "# use — rather than leaving it to the kernel default. configfs + rdma_cm",
   text 2 "# based; best-effort (|| true) so a lab kernel without the rdma_cm configfs",
   text 2 "# doesn't fail the boot. Iterates the real rxe_* devices so it stays correct",
   text 2 "# regardless of how many came up.",
   ⟨2, .item (.lit "modprobe rdma_cm || true")⟩,
   ⟨2, .item (.lit ">-")⟩,
   text 4 "for d in $(ls /sys/class/infiniband 2>/dev/null | grep '^rxe_'); do",
   text 4 "mkdir -p /sys/kernel/config/rdma_cm/$d 2>/dev/null || true;",
   text 4 "echo 'RoCE v2' > /sys/kernel/config/rdma_cm/$d/ports/1/default_roce_mode 2>/dev/null || true;",
   text 4 "done"]

/-- `runcmd` of the InfiniBand role: nothing in it depends on the host. -/
def h200Runcmd : List Line :=
  [⟨0, .key (.lit "runcmd")⟩,
   text 2 "# Install the InfiniBand userland + extra kernel modules FIRST, BEFORE",
   text 2 "# applying the lab Netplan config. Reason: the lab Netplan adds a default",
   text 2 "# route via the bond0.100 gateway (10.42.10.1) which doesn't exist in the",
   text 2 "# lab; once netplan apply replaces the provisioning DHCP default route with",
   text 2 "# that broken route, apt can no longer reach the archive. Doing apt first",
   text 2 "# keeps the working default route. (Same lesson as the RoCE roles.)",
   text 2 "#",
   text 2 "# On real H200 nodes the Mellanox stack comes from DOCA-OFED / MLNX_OFED,",
   text 2 "# which supersedes these inbox packages; this inbox path is for a generic",
   text 2 "# Ubuntu image. linux-modules-extra carries ib_ipoib / mlx5_ib for the",
   text 2 "# stock kernel; rdma-core + ibverbs-utils + infiniband-diags provide",
   text 2 "# ibstat / ibv_devinfo / ibping. universe is enabled for ibverbs-utils /",
   text 2 "# infiniband-diags; ForceIPv4 for v4-only provisioning NATs.",
   ⟨2, .item (.lit ">-")⟩,
   text 4 "sed -i 's/^Components: main.*$/Components: main universe/'",
   text 4 "/etc/apt/sources.list.d/ubuntu.sources",
   ⟨2, .item (.lit "DEBIAN_FRONTEND=noninteractive apt-get -o Acquire::ForceIPv4=true update")⟩,
   ⟨2, .item (.lit ">-")⟩,
   text 4 "DEBIAN_FRONTEND=noninteractive apt-get -o Acquire::ForceIPv4=true install -y",
   text 4 "\"linux-modules-extra-$(uname -r)\" rdma-core ibverbs-utils ibverbs-providers",
   text 4 "infiniband-diags",
   text 2 "# Load the IB stack now so the ib* interfaces exist before netplan renames",
   text 2 "# them. || true: a missing module on a non-IB box is non-fatal — the host",
   text 2 "# still boots; the IPoIB interfaces simply won't appear.",
   ⟨2, .item (.lit "modprobe mlx5_ib || true")⟩,
   ⟨2, .item (.lit "modprobe ib_umad || true")⟩,
   ⟨2, .item (.lit "modprobe ib_uverbs || true")⟩,
   ⟨2, .item (.lit "modprobe rdma_ucm || true")⟩,
   ⟨2, .item (.lit "modprobe ib_ipoib || true")⟩,
   text 2 "# Apply the network config now that packages + modules are in place.",
   ⟨2, .item (.lit "netplan apply")⟩,
   text 2 "# Best-effort wait for the first IPoIB rail (cap 60s). Harmless on a box",
   text 2 "# with no real IB HCA — the loop just times out.",
   ⟨2, .item (.lit "timeout 60 sh -c 'until ip link show ib0 >/dev/null 2>&1; do sleep 1; done' || true")⟩]

/-! ## The templates -/

namespace Cpu

/-- `cpu/network-config.j2` -/
def networkConfig (ctx : HostIntentFields) : List Line :=
  NetworkConfig.header ++
  ctx.nsNics.flatMap NetworkConfig.nsNic ++
  NetworkConfig.bonds ctx.bond ++
  NetworkConfig.vlansHeader ++
  ctx.vlans.flatMap NetworkConfig.vlan

/-- `cpu/user-data.j2` -/
def userData (ctx : HostIntentFields) : List Line :=
  UserData.identity ctx ++
  [.blank,
   ⟨0, .field "preserve_hostname" (.lit "false")⟩,
   .blank,
   ⟨0, .key (.lit "write_files")⟩] ++
  UserData.netplanEntry ++
  UserData.header ++
  ctx.nsNics.flatMap UserData.nsNic ++
  UserData.bonds ctx.bond ++
  UserData.vlansHeader ++
  ctx.vlans.flatMap UserData.vlan ++
  [.blank,
   ⟨0, .key (.lit "runcmd")⟩,
   ⟨2, .item (.lit "netplan apply")⟩]

end Cpu

/-- What `gpu-b300/network-config.j2` and `gpu-b200/network-config.j2` emit; they differ in a comment. -/
def roceNetworkConfig (ctx : HostIntentFields) : List Line :=
  NetworkConfig.header ++
  ctx.nsNics.flatMap NetworkConfig.nsNic ++
  ctx.roceUnderlays.flatMap NetworkConfig.roceUnderlay ++
  NetworkConfig.bonds ctx.bond ++
  NetworkConfig.vlansHeader ++
  ctx.vlans.flatMap NetworkConfig.vlan

/-- What the `user-data.j2` of the RoCE role with this name emits. -/
def roceUserData (role : String) (ctx : HostIntentFields) : List Line :=
  UserData.identity ctx ++
  [⟨0, .field "preserve_hostname" (.lit "false")⟩,
   .blank,
   ⟨0, .key (.lit "write_files")⟩] ++
  UserData.memlockEntry "# Unlimited locked memory for RDMA / Soft-RoCE (rdma_rxe)." ++
  UserData.netplanEntry ++
  UserData.header ++
  ctx.nsNics.flatMap UserData.nsNic ++
  ctx.roceUnderlays.flatMap UserData.roceUnderlay ++
  UserData.bonds ctx.bond ++
  UserData.vlansHeader ++
  ctx.vlans.flatMap UserData.vlan ++
  [.blank] ++
  roceRuncmdHead role ++
  ctx.roceUnderlays.flatMap rdmaLinkAdd ++
  roceRuncmdTail

namespace GpuB300

def networkConfig : HostIntentFields → List Line := roceNetworkConfig
def userData : HostIntentFields → List Line := roceUserData "gpu-b300"

end GpuB300

namespace GpuB200

def networkConfig : HostIntentFields → List Line := roceNetworkConfig
def userData : HostIntentFields → List Line := roceUserData "gpu-b200"

end GpuB200

namespace GpuH200

/-- `gpu-h200/network-config.j2` -/
def networkConfig (ctx : HostIntentFields) : List Line :=
  NetworkConfig.header ++
  ctx.nsNics.flatMap NetworkConfig.nsNic ++
  ctx.ibUnderlays.flatMap NetworkConfig.ibUnderlay ++
  NetworkConfig.bonds ctx.bond ++
  NetworkConfig.vlansHeader ++
  ctx.vlans.flatMap NetworkConfig.vlan

/-- `gpu-h200/user-data.j2` -/
def userData (ctx : HostIntentFields) : List Line :=
  UserData.identity ctx ++
  [⟨0, .field "preserve_hostname" (.lit "false")⟩,
   .blank,
   ⟨0, .key (.lit "write_files")⟩] ++
  UserData.memlockEntry "# Unlimited locked memory for InfiniBand / RDMA verbs." ++
  UserData.infinibandEntry ++
  UserData.netplanEntry ++
  UserData.header ++
  ctx.nsNics.flatMap UserData.nsNic ++
  ctx.ibUnderlays.flatMap UserData.ibUnderlay ++
  UserData.bonds ctx.bond ++
  UserData.vlansHeader ++
  ctx.vlans.flatMap UserData.vlan ++
  [.blank] ++
  h200Runcmd

end GpuH200

end Render
end HostConfig
