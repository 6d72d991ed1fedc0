import KeliNode.Lib.Shell
import KeliNode.Lib.Utf8
import KeliNode.Panel.Types
import KeliNode.Runner.Events

/-!
# The upgrade script

| here | there |
|---|---|
| `ReleaseUpgradeSpec`, `ReleaseSource` | `upgrade.rs:37`, `:49` |
| `UpgradeComponent` | `upgrade.rs:57` |
| `releaseUpgradeShellScriptWithSource` | `upgrade.rs:380` |
| `releaseUpgradeLaunchPlanWithSource` | `upgrade.rs:328` |
| `validKelinodeVersion` | `upgrade.rs:482` |

What the panel sends reaches the script in eight assignments only, each value in single quotes (`shellQuote`).  Without
`systemd-run` the script itself is quoted once more, as the argument of an inner shell.
-/

namespace KeliNode

open Lib

/-! ## What is released -/

structure ReleaseUpgradeSpec where
  name : Text
  assetName : Text
  owner : Text
  repository : Text
  binary : Text
  installDir : Text
  serviceName : Text
  platform : Text
  deriving DecidableEq

inductive UpgradeComponent where
  | node
  | core
  deriving DecidableEq

/-- `DEFAULT_RELEASE_OWNER` (`upgrade.rs:10`). -/
def defaultReleaseOwner : Text := "keli-123456"

/-- `DEFAULT_RELEASE_PLATFORM` (`upgrade.rs:11`). -/
def defaultReleasePlatform : Text := "linux-x86_64"

/-- `ReleaseUpgradeSpec::native_node` (`upgrade.rs:229`). -/
def ReleaseUpgradeSpec.nativeNode : ReleaseUpgradeSpec where
  name := "kelinode-rs"
  assetName := "keli-native-node"
  owner := defaultReleaseOwner
  repository := "kelinode-rs"
  binary := "kelinode"
  installDir := "/usr/local/kelinode"
  serviceName := "kelinode"
  platform := defaultReleasePlatform

/-- `ReleaseUpgradeSpec::native_core` (`upgrade.rs:242`). -/
def ReleaseUpgradeSpec.nativeCore : ReleaseUpgradeSpec where
  name := "keli-core-rs"
  assetName := "keli-core-rs"
  owner := defaultReleaseOwner
  repository := "keli-core-rs"
  binary := "keli-core-rs"
  installDir := "/usr/local/kelinode"
  serviceName := "kelinode"
  platform := defaultReleasePlatform

/-- `UpgradeComponent::from_command_value` (`upgrade.rs:197`). -/
def UpgradeComponent.fromCommandValue (value : Text) : Except Text UpgradeComponent :=
  let value := asciiLower (trim value)
  let nodeNames : List Text := ["node", "agent", "v2node", "kelinode", "kelinode-rs"]
  let coreNames : List Text := ["core", "keli-core", "keli-core-rs"]
  if value.isEmpty || nodeNames.contains value then .ok .node
  else if coreNames.contains value then .ok .core
  else .error "invalid upgrade component"

/-- `UpgradeComponent::status_name` (`upgrade.rs:213`). -/
def UpgradeComponent.statusName : UpgradeComponent → Text
  | .node => "node"
  | .core => "core"

/-- `UpgradeComponent::release_spec` (`upgrade.rs:220`). -/
def UpgradeComponent.releaseSpec : UpgradeComponent → ReleaseUpgradeSpec
  | .node => .nativeNode
  | .core => .nativeCore

/-- `ReleaseUpgradeSpec::asset_prefix` (`upgrade.rs:255`). -/
def ReleaseUpgradeSpec.assetPrefix (spec : ReleaseUpgradeSpec) (targetVersion : Text) : Text :=
  join "-" [spec.assetName, targetVersion, spec.platform]

/-- `ReleaseUpgradeSpec::release_asset_url` (`upgrade.rs:259`). -/
def ReleaseUpgradeSpec.releaseAssetUrl (spec : ReleaseUpgradeSpec) (targetVersion suffix : Text) : Text :=
  join "/" ["https://github.com", spec.owner, spec.repository, "releases/download", targetVersion,
    spec.assetPrefix targetVersion ++ suffix]

/-! ## Where it is fetched -/

structure ReleaseSource where
  source : Text := []
  baseUrl : Text := []
  machineId : Text := []
  machineToken : Text := []
  deriving DecidableEq

/-- `ReleaseSource::from_command` (`upgrade.rs:272`). -/
def ReleaseSource.fromCommand (command : MachineUpgradeCommand) : ReleaseSource where
  source := trim command.releaseSource
  baseUrl := trimEndMatches (· = '/') (trim command.releaseBaseUrl)
  machineId := trim command.releaseAuth.machineId
  machineToken := trim command.releaseAuth.machineToken

/-- `ReleaseSource::query` (`upgrade.rs:289`). -/
def ReleaseSource.query (source : ReleaseSource) : Text :=
  if source.machineId.isEmpty || source.machineToken.isEmpty then []
  else join "=" ["?machine_id", source.machineId ++ "&machine_token", source.machineToken]

/-- `ReleaseSource::asset_url` (`upgrade.rs:299`); a base URL of its own makes the source panel-like. -/
def ReleaseSource.assetUrl (source : ReleaseSource) (spec : ReleaseUpgradeSpec) (targetVersion suffix : Text) : Text :=
  if source.baseUrl.isEmpty then spec.releaseAssetUrl targetVersion suffix
  else
    let endpoint : Text := if suffix = ".manifest.json" then "manifest.json" else "archive.tar.gz"
    join "/" [source.baseUrl, spec.name, targetVersion, spec.platform, endpoint ++ source.query]

/-! ## The script -/

/-- `shell_quote` (`upgrade.rs:525`). -/
def shellQuote (value : Text) : Text :=
  let quote : Text := "'\"'\"'"
  '\'' :: value.flatMap (fun c => if c = '\'' then quote else [c]) ++ ['\'']

/-- The directories, and the functions that restore and restart. -/
def workLines : List Text := [
    "work_dir=$(mktemp -d \"/tmp/$\x7bcomponent\x7d.upgrade.XXXXXX\")",
    "cleanup() \x7b rm -rf \"$work_dir\"; \x7d",
    "trap cleanup EXIT",
    "backup_dir=\"$\x7binstall_dir\x7d.backup.$\x7bcomponent\x7d.$\x7btarget_version\x7d.$(date +%Y%m%d%H%M%S)\"",
    "restore_backup() \x7b",
    "  if [ -d \"$backup_dir\" ]; then",
    "    rm -rf \"$install_dir\"",
    "    mv \"$backup_dir\" \"$install_dir\"",
    "    restart_service || true",
    "  fi",
    "\x7d",
    "restart_service() \x7b",
    "  if [ -n \"$service_name\" ] && command -v systemctl >/dev/null 2>&1; then",
    "    systemctl restart \"$service_name\" >/dev/null 2>&1 && return 0",
    "  fi",
    "  if [ -n \"$service_name\" ] && command -v service >/dev/null 2>&1; then",
    "    service \"$service_name\" restart >/dev/null 2>&1 && return 0",
    "  fi",
    "  return 0",
    "\x7d"]

/-- The tools that are needed, and the backup. -/
def toolLines : List Text := [
    "if ! command -v curl >/dev/null 2>&1; then exit 1; fi",
    "if ! command -v tar >/dev/null 2>&1; then exit 1; fi",
    "if ! command -v sha256sum >/dev/null 2>&1; then exit 1; fi",
    "if [ -d \"$install_dir\" ]; then",
    "  cp -a \"$install_dir\" \"$backup_dir\"",
    "fi",
    "mkdir -p \"$install_dir\""]

/-- What is fetched and checked. -/
def fetchLines : List Text := [
    "manifest_file=\"$work_dir/$\x7basset_prefix\x7d.manifest.json\"",
    "archive_file=\"$work_dir/$\x7basset_prefix\x7d.tar.gz\"",
    "if ! curl -fsSL \"$manifest_url\" -o \"$manifest_file\"; then restore_backup; exit 1; fi",
    "manifest_sha=$(sed -n 's/.*\"sha256\"[[:space:]]*:[[:space:]]*\"\\([0-9a-fA-F]\\\x7b64\\\x7d\\)\".*/\\1/p' \"$manifest_file\" | head -n 1)",
    "manifest_binary=$(sed -n 's/.*\"binary\"[[:space:]]*:[[:space:]]*\"\\([^\"]*\\)\".*/\\1/p' \"$manifest_file\" | head -n 1)",
    "if [ -z \"$manifest_sha\" ]; then restore_backup; exit 1; fi",
    "if [ -n \"$manifest_binary\" ] && [ \"$manifest_binary\" != \"$binary_name\" ]; then restore_backup; exit 1; fi",
    "if ! curl -fsSL \"$archive_url\" -o \"$archive_file\"; then restore_backup; exit 1; fi",
    "(cd \"$work_dir\" && printf '%s  %s\\n' \"$manifest_sha\" \"$\x7basset_prefix\x7d.tar.gz\" | sha256sum -c -) || \x7b restore_backup; exit 1; \x7d",
    "if ! tar -xzf \"$archive_file\" -C \"$work_dir\"; then restore_backup; exit 1; fi",
    "extracted_binary=$(find \"$work_dir\" -type f -name \"$binary_name\" | head -n 1)",
    "if [ -z \"$extracted_binary\" ]; then restore_backup; exit 1; fi"]

/-- What is installed, and that it is the version that was asked for. -/
def installLines : List Text := [
    "cp \"$extracted_binary\" \"$install_dir/$binary_name\"",
    "chmod 0755 \"$install_dir/$binary_name\"",
    "installed_version=\"\"",
    "if [ -x \"$install_dir/$binary_name\" ]; then",
    "  installed_version=$(\"$install_dir/$binary_name\" version 2>/dev/null | awk '\x7bprint $2\x7d' | head -n 1 || true)",
    "fi",
    "normalize_version() \x7b",
    "  printf '%s' \"$1\" | sed 's/^[vV]//'",
    "\x7d",
    "if [ \"$(normalize_version \"$installed_version\")\" != \"$(normalize_version \"$target_version\")\" ]; then",
    "  restore_backup",
    "  exit 1",
    "fi",
    "if [ \"$component\" = \"kelinode-rs\" ]; then",
    "  printf '%s\\n' \"$target_version\" > \"$install_dir/.installed_version\"",
    "fi",
    "printf '%s\\n' \"$target_version\" > \"$install_dir/.$\x7bcomponent\x7d_version\"",
    "restart_service",
    "rm -rf \"$backup_dir\""]

/-- The lines that do not depend on the command. -/
def upgradeLines : List Text := workLines ++ toolLines ++ fetchLines ++ installLines

/-- The variables that do, and what is meant by them. -/
def upgradeVariables (targetVersion : Text) (spec : ReleaseUpgradeSpec) (source : ReleaseSource) : List (Text × Text) := [
    ("target_version", targetVersion),
    ("component", spec.name),
    ("binary_name", spec.binary),
    ("asset_prefix", spec.assetPrefix targetVersion),
    ("manifest_url", source.assetUrl spec targetVersion ".manifest.json"),
    ("archive_url", source.assetUrl spec targetVersion ".tar.gz"),
    ("install_dir", spec.installDir),
    ("service_name", spec.serviceName)]

def assignmentLine (assigned : Text × Text) : Text := assigned.1 ++ '=' :: shellQuote assigned.2

/-- `release_upgrade_shell_script_with_source` (`upgrade.rs:380`). -/
def releaseUpgradeShellScriptWithSource (targetVersion : Text) (spec : ReleaseUpgradeSpec) (source : ReleaseSource) : Text :=
  let first : Text := "set -eu"
  join "\n" (first :: (upgradeVariables targetVersion spec source).map assignmentLine ++ upgradeLines)

/-! ## How it is started -/

structure UpgradeLaunchPlan where
  targetVersion : Text
  command : Text
  args : List Text
  logPath : Option Text
  deriving DecidableEq

/-- The characters of `sanitize_systemd_unit_part`, and a dash for each row of others. -/
def sanitizeUnitChars (output : Text) : Text → Text
  | [] => output
  | c :: rest =>
    if c.isAlphanum || c = '_' || c = '.' || c = '-' then sanitizeUnitChars (output ++ [c]) rest
    else if output.getLast? ≠ some '-' then sanitizeUnitChars (output ++ ['-']) rest
    else sanitizeUnitChars output rest

/-- `sanitize_systemd_unit_part` (`upgrade.rs:508`). -/
def sanitizeSystemdUnitPart (value : Text) : Text :=
  firstNonEmpty (trimMatches (fun c => c = '.' || c = '-') (sanitizeUnitChars [] value)) "latest"

/-- `release_upgrade_launch_plan_with_source` (`upgrade.rs:328`); `toolExists` looks for a program on the path. -/
def releaseUpgradeLaunchPlanWithSource (toolExists : Text → Bool) (targetVersion : Text) (spec : ReleaseUpgradeSpec)
    (source : ReleaseSource) : UpgradeLaunchPlan :=
  let targetVersion := trim targetVersion
  let script := releaseUpgradeShellScriptWithSource targetVersion spec source
  let name := sanitizeSystemdUnitPart spec.name
  let systemdRun : Text := "systemd-run"
  let selfUpdate : Text := "self-update"
  let logPath : Text := join "/" [[], "tmp", join "-" [name, "self-update.log"]]
  if toolExists systemdRun then
    { targetVersion
      command := systemdRun
      args := ["--unit", join "-" [name, selfUpdate, sanitizeSystemdUnitPart targetVersion],
        join " " [join "=" ["--description", spec.name], "self", "update"], "/bin/sh", "-c", script]
      logPath := none }
  else
    { targetVersion
      command := "/bin/sh"
      args := ["-c", join " " ["nohup", "/bin/sh", "-c", shellQuote (join " " ["sleep", "1;", script]), '>' :: logPath,
        "2>&1", "&"]]
      logPath := some logPath }

/-! ## Versions -/

/-- `valid_kelinode_version` (`upgrade.rs:482`); of the letters `v` and `V` nothing new is said. -/
def validKelinodeVersion (version : Text) : Bool :=
  let version := trim version
  match version with
  | [] => false
  | first :: _ =>
    (first.isAlphanum || first = 'v' || first = 'V') && byteLen version ≤ 64 &&
      version.all fun c => c.isAlphanum || c = '.' || c = '_' || c = '-'

/-- `trim_version_prefix` (`upgrade.rs:501`). -/
def trimVersionPrefix (value : Text) : Text := trimStartMatches (fun c => c = 'v' || c = 'V') (trim value)

/-- `versions_equal` (`upgrade.rs:497`). -/
def versionsEqual (current target : Text) : Bool := trimVersionPrefix current = trimVersionPrefix target

end KeliNode
