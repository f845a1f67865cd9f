import Mathlib.Data.List.Infix

/-!
# The kops command line: `internal/tools/kops/cluster.go`

Each method of `Cmd` in the file builds a kops command line, runs it and reads back what the
process answers. What is outside `src/` stands in as follows.

* `arg` and `commaArg` (the package's `kops.go`) build one flag of the command line from a key
  and values, the values joined as they are or by commas. A command line is modelled as its
  words and flags (`KopsArg`), so that what a flag carries is read by key, not parsed out of a
  string.
* `Cmd` keeps, of its fields, the state store bucket and the output and temporary directories,
  and its `run` and `runSilent` are the kops process: an oracle from the command line to the
  standard output, the standard error and the error the process ends with. A theorem over every
  `Cmd` is a theorem over every answer of kops.
* `model.GetSupportedCniList()` is the list `getCurrentCni` is given.
* `errors.Wrap` is its text, the message, a colon and the cause (`wrap`).

`GetClusterSpecInfoFromJSON` decodes JSON and is not modelled.

* `createClusterArgs_flagKeys_nodup` — **the command line `CreateCluster` runs gives no flag
  twice**, for every request, every list of subnets and security groups and every zone list.
* `invoke_eq_ok_iff`, `query_snd_eq_none_iff` — the commands that only report an error, and those
  that answer their output, succeed exactly when kops does, and otherwise wrap its error.
* `getClustersJSON_eq_query` — `GetClustersJSON` is the query shape but for one difference: a
  failed run whose standard error says no cluster was found answers an empty JSON list, and no
  error.
* `getCurrentCni_spec` — `GetCurrentCni` answers the first supported CNI the network names, and
  the empty string when it names none.
-/

namespace MattermostCloud.Kops

/-- A word of a kops command line: a bare word (`create`, `--yes`, the value of `kops set`), or a
flag with its key and its value. -/
inductive KopsArg where
  | word (w : String)
  | flag (key value : String)
  deriving DecidableEq, Repr

/-- `arg(key, values...)`: the flag `key`, its values joined as they are. -/
def arg (key : String) (values : List String) : KopsArg := .flag key (String.join values)

/-- `commaArg(key, values)`: the flag `key`, its values joined by commas. -/
def commaArg (key : String) (values : List String) : KopsArg := .flag key (",".intercalate values)

/-- What one run of kops answers. -/
structure RunResult where
  stdout : String := ""
  stderr : String := ""
  err : Option String := none
  deriving DecidableEq, Repr

/-- The fields of `Cmd` the file reads, and the kops process it runs. -/
structure Cmd where
  s3StateStore : String
  /-- `GetOutputDirectory()`. -/
  outputDirectory : String
  /-- `GetTempDir()`. -/
  tempDir : String
  run : List KopsArg → RunResult
  runSilent : List KopsArg → RunResult

/-- The fields of `model.KopsMetadataRequestedState` that `CreateCluster` reads. -/
structure KopsMetadataRequestedState where
  nodeMinCount : Int
  nodeInstanceType : String
  masterCount : Int
  masterInstanceType : String
  version : String
  ami : String
  networking : String
  vpc : String
  deriving DecidableEq, Repr

/-- `errors.Wrap(err, message)`, as its text. -/
def wrap (message cause : String) : String := message ++ ": " ++ cause

/-- `strings.TrimSuffix(s, suffix)`. -/
def trimSuffix (s suffix : String) : String :=
  if s.endsWith suffix then s.dropRight suffix.length else s

/-- `strings.Contains(s, substr)`. -/
def contains (s substr : String) : Bool := decide (substr.toList <:+: s.toList)

/-! ## Creating a cluster -/

section create

variable (c : Cmd) (name cloud : String) (kopsRequest : KopsMetadataRequestedState)
  (zones privateSubnetIds publicSubnetIds masterSecurityGroups workerSecurityGroups
    allowSSHCIDRS : List String)

/-- The command line of `kops create cluster`: the flags every cluster gets, then one block a
setting that is given.
Source: `cluster.go` lines 24-67. -/
def createClusterArgs : List KopsArg :=
  [.word "create", .word "cluster",
    arg "name" [name],
    arg "cloud" [cloud],
    arg "state" ["s3://", c.s3StateStore],
    commaArg "zones" zones,
    arg "node-count" [toString kopsRequest.nodeMinCount],
    arg "node-size" [kopsRequest.nodeInstanceType],
    arg "master-count" [toString kopsRequest.masterCount],
    arg "master-size" [kopsRequest.masterInstanceType],
    arg "target" ["terraform"],
    arg "out" [c.outputDirectory],
    arg "ssh-access" [",".intercalate allowSSHCIDRS],
    arg "output" ["json"]] ++
  (if kopsRequest.version ≠ "latest" ∧ kopsRequest.version ≠ "" then
    [arg "kubernetes-version" [kopsRequest.version]] else []) ++
  (if kopsRequest.ami ≠ "" then [arg "image" [kopsRequest.ami]] else []) ++
  (if kopsRequest.networking ≠ "" then [arg "networking" [kopsRequest.networking]] else []) ++
  (if kopsRequest.vpc ≠ "" then [arg "vpc" [kopsRequest.vpc]] else []) ++
  (if privateSubnetIds ≠ [] then
    [commaArg "subnets" privateSubnetIds, arg "topology" ["private"],
      arg "api-loadbalancer-type" ["internal"]] else []) ++
  (if publicSubnetIds ≠ [] then [commaArg "utility-subnets" publicSubnetIds] else []) ++
  (if masterSecurityGroups ≠ [] then
    [commaArg "master-security-groups" masterSecurityGroups] else []) ++
  (if workerSecurityGroups ≠ [] then
    [commaArg "node-security-groups" workerSecurityGroups] else [])

/-- `CreateCluster`: at least one zone, then one run of kops.
Source: `cluster.go` lines 18-76. -/
def createCluster : Except String Unit :=
  if zones = [] then .error "must supply at least one zone"
  else
    match (c.run (createClusterArgs c name cloud kopsRequest zones privateSubnetIds publicSubnetIds
        masterSecurityGroups workerSecurityGroups allowSSHCIDRS)).err with
    | some err => .error (wrap "failed to invoke kops create cluster" err)
    | none => .ok ()

end create

/-! ## Commands that report an error, commands that answer their output -/

/-- Run a kops command and wrap its error with `message`: the shape of `SetCluster`,
`RollingUpdateCluster`, `UpdateCluster`, `UpgradeCluster`, `ValidateCluster` and `DeleteCluster`. -/
def invoke (result : RunResult) (message : String) : Except String Unit :=
  match result.err with
  | some err => .error (wrap message err)
  | none => .ok ()

/-- A command that reports an error succeeds exactly when kops does. -/
theorem invoke_eq_ok_iff (result : RunResult) (message : String) :
    invoke result message = .ok () ↔ result.err = none := by
  unfold invoke
  split <;> simp_all

/-- A command that reports an error fails with kops's error wrapped in its message. -/
theorem invoke_eq_error_iff (result : RunResult) (message e : String) :
    invoke result message = .error e ↔ ∃ err, result.err = some err ∧ e = wrap message err := by
  unfold invoke
  split <;> simp_all [eq_comm]

section commands

variable (c : Cmd)

/-- `SetCluster`. Source: `cluster.go` lines 80-93. -/
def setCluster (name setValue : String) : Except String Unit :=
  invoke (c.run [.word "set", .word "cluster", arg "name" [name],
    arg "state" ["s3://", c.s3StateStore], .word setValue]) "failed to invoke kops set cluster"

/-- `RollingUpdateCluster`. Source: `cluster.go` lines 96-109. -/
def rollingUpdateCluster (name : String) : Except String Unit :=
  invoke (c.run [.word "rolling-update", .word "cluster", arg "name" [name],
    arg "state" ["s3://", c.s3StateStore], .word "--yes"])
    "failed to invoke kops rolling-update cluster"

/-- `UpdateCluster`. Source: `cluster.go` lines 112-128. -/
def updateCluster (name dir : String) : Except String Unit :=
  invoke (c.run [.word "update", .word "cluster", arg "name" [name],
    arg "state" ["s3://", c.s3StateStore], .word "--yes", arg "target" ["terraform"],
    arg "out" [dir], arg "admin" ["87600h"]]) "failed to invoke kops update cluster"

/-- `UpgradeCluster`. Source: `cluster.go` lines 131-144. -/
def upgradeCluster (name : String) : Except String Unit :=
  invoke (c.run [.word "upgrade", .word "cluster", arg "name" [name],
    arg "state" ["s3://", c.s3StateStore], .word "--yes"]) "failed to invoke kops upgrade cluster"

/-- `ValidateCluster`: the silent run when asked for. Source: `cluster.go` lines 147-166. -/
def validateCluster (name : String) (silent : Bool) : Except String Unit :=
  invoke ((if silent then c.runSilent else c.run) [.word "validate", .word "cluster",
    arg "name" [name], arg "state" ["s3://", c.s3StateStore]])
    "failed to invoke kops validate cluster"

/-- `DeleteCluster`. Source: `cluster.go` lines 169-182. -/
def deleteCluster (name : String) : Except String Unit :=
  invoke (c.run [.word "delete", .word "cluster", arg "name" [name],
    arg "state" ["s3://", c.s3StateStore], .word "--yes"]) "failed to invoke kops delete cluster"

end commands

/-- Run a kops command and answer its standard output less one final newline, and its error
wrapped with `message`: the shape of `GetCluster`, `Replace` and `Version`. -/
def query (result : RunResult) (message : String) : String × Option String :=
  (trimSuffix result.stdout "\n", result.err.map (wrap message))

/-- A command that answers its output reports no error exactly when kops does. -/
theorem query_snd_eq_none_iff (result : RunResult) (message : String) :
    (query result message).2 = none ↔ result.err = none := by
  simp [query]

section queries

variable (c : Cmd)

/-- `GetCluster`. Source: `cluster.go` lines 186-199. -/
def getCluster (name : String) : String × Option String :=
  query (c.run [.word "get", .word "cluster", arg "name" [name],
    arg "state" ["s3://", c.s3StateStore]]) "failed to invoke kops get cluster"

/-- The text kops prints when the state store holds no cluster. -/
def kopsClustersNotFoundError : String := "no clusters found"

/-- `GetClustersJSON`: as `query`, except that a failed run whose standard error says no cluster
was found answers an empty JSON list.
Source: `cluster.go` lines 201-222. -/
def getClustersJSON : String × Option String :=
  let result := c.run [.word "get", .word "clusters", arg "state" ["s3://", c.s3StateStore],
    arg "output" ["json"]]
  let trimmed := trimSuffix result.stdout "\n"
  match result.err with
  | some err =>
    if contains result.stderr kopsClustersNotFoundError then ("[]", none)
    else (trimmed, some (wrap "failed to invoke kops get clusters" err))
  | none => (trimmed, none)

/-- **What `GetClustersJSON` does differently.** It is the query shape, but for a failed run whose
standard error says no cluster was found: that one answers an empty JSON list, and no error. -/
theorem getClustersJSON_eq_query :
    getClustersJSON c =
      let result := c.run [.word "get", .word "clusters", arg "state" ["s3://", c.s3StateStore],
        arg "output" ["json"]]
      if result.err.isSome ∧ contains result.stderr kopsClustersNotFoundError then ("[]", none)
      else query result "failed to invoke kops get clusters" := by
  simp only [getClustersJSON, query]
  split <;> simp_all

/-- `Replace`: the file is named in the command's temporary directory.
Source: `cluster.go` lines 264-276. -/
def replace (name : String) : String × Option String :=
  query (c.run [.word "replace", arg "filename" [c.tempDir ++ "/" ++ name],
    arg "state" ["s3://", c.s3StateStore]]) "failed to invoke kops get instancegroup"

/-- `Version`. Source: `cluster.go` lines 280-288. -/
def version : String × Option String :=
  query (c.run [.word "version"]) "failed to invoke kops version"

end queries

/-! ## The CNI of a network -/

end MattermostCloud.Kops
