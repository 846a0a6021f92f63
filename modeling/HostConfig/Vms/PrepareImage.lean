import HostConfig.Lib.FileSystem
import HostConfig.Lib.Raising
import HostConfig.Lib.Sha256
import HostConfig.Models.Types

/-!
# `Vms.PrepareImage` — the cloud image of the test VMs

`prepare` fetches the checksum list, downloads the image to a temporary path, verifies it, renames it to
where it is wanted and customizes it there. It runs on a file system that outlives what it raises. What the
network, the operating system and `virt-customize` do during a call is a record of its own, `Surroundings`:
each of them can fail at any place.

Everything before the customization is `fetchImage`; it says whether it has replaced the image.
-/

namespace HostConfig
namespace Vms

open Models FileSystem Raising

/-! ## Paths -/

/-- A path: the directory of the file and its name there. One directory is written one way. -/
structure Path where
  parent : String
  name : String
deriving DecidableEq

/-- `str(path)` -/
def Path.str (path : Path) : String :=
  if path.name = "" then path.parent
  else if path.parent = "." then path.name
  else if path.parent = "/" then "/" ++ path.name
  else path.parent ++ "/" ++ path.name

/-- `cs.rfind(c)`; `none` where that is -1. -/
def rfind (c : Char) (cs : List Char) : Option Nat := (cs.reverse.idxOf? c).map fun i => cs.length - 1 - i

/-- `path.suffix`, of the name -/
def suffix (name : List Char) : List Char :=
  match rfind '.' name with
  | some i => if 0 < i ∧ i < name.length - 1 then name.drop i else []
  | none   => []

/-- `path.with_suffix`, which raises a `ValueError` for a path without a name. -/
def Path.withSuffix (path : Path) (new : String) : Option Path :=
  if path.name = "" then none
  else
    let name := path.name.toList
    some { path with name := String.ofList (name.take (name.length - (suffix name).length) ++ new.toList) }

/-- A name is what stands before its suffix, and its suffix. -/
theorem take_append_suffix (name : List Char) :
    name.take (name.length - (suffix name).length) ++ suffix name = name := by
  unfold suffix
  split
  · rename_i i _
    split
    · rename_i hi
      have hlength : name.length - (name.drop i).length = i := by
        rw [List.length_drop]
        omega
      rw [hlength, List.take_append_drop]
    · simp
  · simp

/-- A path is its own path with a suffix exactly when it has that suffix. -/
theorem Path.withSuffix_eq_self_iff {path : Path} {new : String} :
    path.withSuffix new = some path ↔ path.name ≠ "" ∧ suffix path.name.toList = new.toList := by
  unfold Path.withSuffix
  split
  · rename_i hempty
    simp [hempty]
  rename_i hname
  have hself := take_append_suffix path.name.toList
  constructor
  · intro h
    refine ⟨hname, ?_⟩
    have hnames := congrArg String.toList (congrArg Path.name (Option.some.inj h))
    rw [String.toList_ofList] at hnames
    exact List.append_cancel_left (hself.trans hnames.symm)
  · rintro ⟨-, hsuffix⟩
    dsimp only
    rw [← hsuffix, hself, String.ofList_toList]

/-! ## Constants -/

def baseUrl : String := "https://cloud-images.ubuntu.com/noble/current"
def imageFilename : String := "noble-server-cloudimg-amd64.img"
def shasumsFilename : String := "SHA256SUMS"

def shaUrl : String := baseUrl ++ "/" ++ shasumsFilename
def imageUrl : String := baseUrl ++ "/" ++ imageFilename

/-- `_DEFAULT_IMAGE_DIR / _DEFAULT_IMAGE_NAME` -/
def defaultImagePath : Path := ⟨"fixtures/vms/images", "ubuntu-noble-base.img"⟩

def customizePackages : List String := ["lldpd", "chrony", "ethtool"]

/-! ## What a call meets -/

/-- What leaves `prepare` as an exception. `osError` is one of the operating system's, and whatever else
    reading the public key raises. -/
inductive ImageExc
  | networkError (url : String)
  | keyError (message : String)
  | valueError (path : Path)
  | checksumMismatchError (path : Path) (expected actual : String)
  | virtCustomizeError (imagePath : Path) (returncode : Int) (stderr : String)
  | osError
deriving DecidableEq

/-- What a finished run of `virt-customize` says, and what it has made of the image. -/
structure ToolResult where
  returncode : Int
  stderr : String
  edit : List UInt8 → List UInt8

/-- The world around one call. -/
structure Surroundings where
  /-- The parent directory is there or can be made. -/
  mkdir : Bool
  /-- The checksum list, if it arrives and is UTF-8. -/
  sums : Option String
  /-- The download of the image starts. -/
  urlopen : Bool
  /-- The temporary path may be opened for writing. -/
  opens : Bool
  /-- What of the image arrives and is written, and whether nothing goes wrong then. -/
  written : List UInt8
  complete : Bool
  /-- The temporary path can be read back. -/
  reads : Bool
  /-- The operating system allows the rename. -/
  renames : Bool
  /-- `virt-customize` is installed. -/
  which : Bool
  /-- The public key, if its file exists. -/
  pubkey : Except ImageExc (Option String)
  /-- What `virt-customize` does when it is run with a command line; `none` if it cannot be started. -/
  virtCustomize : List String → Option ToolResult

/-- What happens to the image, as the log has it. -/
inductive Event
  | downloaded | customized
deriving DecidableEq

structure Host where
  fs : Fs Path
  events : List Event

abbrev Prepare (α : Type) := Program Host ImageExc α

/-- A condition without which there is an exception. -/
def require (e : ImageExc) (b : Bool) : Prepare Unit := Program.ask fun _ => if b then .ok () else .error e

/-- An operation on the files that may fail. -/
def onFiles (e : ImageExc) (f : Fs Path → Option (Fs Path)) : Prepare Unit :=
  Program.attempt e fun host => (f host.fs).map fun fs => { host with fs }

def record (event : Event) : Prepare Unit := Program.modify fun host =>
    { host with events := host.events ++ [event] }

/-- `path.unlink(missing_ok=True)` -/
def unlink (path : Path) : Prepare Unit := onFiles .osError (·.unlink path)

/-! ## The download -/

/-- The digest a line of the checksum list gives for the file, if it is a line for it. -/
def digestFor (filename : String) (line : List Char) : Option String :=
  match split line with
  | [digest, name] =>
      if String.ofList (name.dropWhile (· = '*')) = filename then
        some (String.ofList (lower digest)) else none
  | _ => none

/-- `_extract_sha256` -/
def extractSha256 (shaContent filename : String) : Except ImageExc String :=
  match (splitlines shaContent).findSome? (digestFor filename) with
  | some digest => .ok digest
  | none        => .error (.keyError ("'" ++ filename ++ "' not found in SHA256SUMS"))

section

variable (call : Surroundings)

/-- `_fetch_text`, of the checksum list. -/
def fetchText (url : String) : Prepare String :=
  Program.ask fun _ => call.sums.elim (.error (.networkError url)) .ok

/-- `_fetch_file`: what has been written by the time something goes wrong stays. -/
def fetchFile (url : String) (dest : Path) : Prepare Unit := do
  require (.networkError url) call.urlopen
  onFiles (.networkError url) fun fs => if call.opens then fs.write dest call.written else none
  require (.networkError url) call.complete

/-- `_sha256_of`; the chunks that are read add up to the contents of the file. -/
def sha256Of (path : Path) : Prepare String :=
  Program.ask fun host =>
    if call.reads then (host.fs.read path).elim (.error .osError) fun bytes => .ok (Sha256.hexdigest bytes)
    else .error .osError

/-- The `try` of `prepare`. -/
def fetchVerified (tmpPath outPath : Path) (expectedSha : String) : Prepare Unit :=
  try
    fetchFile call imageUrl tmpPath
    let actualSha ← sha256Of call tmpPath
    if actualSha ≠ expectedSha then
      -- the handler removes it once more
      unlink tmpPath
      throw (.checksumMismatchError tmpPath expectedSha actualSha)
    else
      onFiles .osError fun fs => if call.renames then fs.rename tmpPath outPath else none
      record .downloaded
  catch e =>
    unlink tmpPath
    throw e

/-- `prepare` up to the customization: whether the image has been downloaded. -/
def fetchImage (outPath : Path) (force : Bool) : Prepare Bool := do
  require .osError call.mkdir
  let present ← Program.ask fun host => .ok (host.fs.present outPath)
  -- an image that is there is returned as it is, whatever `customize` says
  if present && !force then pure false
  else
    let shaContent ← fetchText call shaUrl
    let expectedSha ← Program.ask fun _ => extractSha256 shaContent imageFilename
    let tmpPath ← Program.ask fun _ => (outPath.withSuffix ".tmp").elim (.error (.valueError outPath)) .ok
    fetchVerified call tmpPath outPath expectedSha
    pure true

end

/-! ## The customization -/

/-- `install_arg` -/
def installArg : String := ",".intercalate customizePackages

/-- `cloud_cfg` -/
def cloudCfg (pubkey : String) : String :=
  "# E2E lab test key — injected by prepare_image.py --prepare.\n" ++
  "# This is a test infrastructure credential; only authorises\n" ++
  "# access to ephemeral lab VMs.\n" ++
  "# Matching private key: tests/e2e/fixtures/test_vm_key\n" ++
  "ssh_authorized_keys:\n" ++
  "  - " ++ pubkey ++ "\n"

/-- The arguments that put the key into the image. -/
def keyArgs (pubkey : String) : List String :=
  ["--run-command",
    "mkdir -p /etc/cloud/cloud.cfg.d && cat > /etc/cloud/cloud.cfg.d/99-e2e-lab.cfg << 'CLOUDEOF'\n" ++
      cloudCfg (String.ofList (strip pubkey.toList)) ++ "CLOUDEOF"]

/-- `cmd` -/
def customizeCmd (imagePath : Path) (pubkey : Option String) : List String :=
  ["virt-customize", "-a", imagePath.str, "--install", installArg, "--run-command", "apt-get clean"] ++
    (pubkey.map keyArgs).getD []

/-- `cmd_no_install`: each argument beside the one before it. -/
def cmdNoInstall (cmd : List String) : List String :=
  (cmd.zip (none :: cmd.map some)).filterMap fun (c, previous) =>
    if ["--install", installArg].contains c || previous == some "--install" then none else some c

/-- The file a path leads to is changed in place. -/
def Host.edit (host : Host) (path : Path) (f : List UInt8 → List UInt8) : Host :=
  { host with fs := (host.fs.inode path).elim host.fs fun ino =>
    host.fs.setBytes ino (f (host.fs.bytes ino)) }

/-- A run of `virt-customize` on the image. -/
def runTool (call : Surroundings) (imagePath : Path) (cmd : List String) : Prepare ToolResult := do
  let result ← Program.ask fun _ => (call.virtCustomize cmd).elim (.error .osError) .ok
  Program.modify fun host => host.edit imagePath result.edit
  pure result

/-- `_run_virt_customize` -/
def runVirtCustomize (call : Surroundings) (imagePath : Path) : Prepare Unit :=
  if !call.which then pure ()
  else do
    let pubkey ← Program.ask fun _ => call.pubkey
    let cmd := customizeCmd imagePath pubkey
    let result ← runTool call imagePath cmd
    if result.returncode ≠ 0 then
      -- once more, without the packages: the key is what the tests need
      let result ← runTool call imagePath (cmdNoInstall cmd)
      if result.returncode ≠ 0 then throw (.virtCustomizeError imagePath result.returncode result.stderr)
      else record .customized
    else record .customized

/-- `prepare` -/
def prepare (call : Surroundings) (outPath : Option Path) (customize force : Bool) : Prepare Path := do
  let outPath := outPath.getD defaultImagePath
  let downloaded ← fetchImage call outPath force
  if downloaded && customize then
    runVirtCustomize call outPath
    pure outPath
  else pure outPath

end Vms
end HostConfig
