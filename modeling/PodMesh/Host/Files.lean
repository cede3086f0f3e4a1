import PodMesh.Text.Line

/-!
# Files

The files of a host and the names that lead to them. A name is a list of steps between
slashes, taken from the root or from the current folder. A step that is empty or a dot
stays where it is, two dots lead to the folder above, and only folders can be left by
another step.
-/

namespace PodMesh.Host

/-- Why a name leads to nothing that can be used. -/
inductive FileFault where
  | absent
  | denied
  | present
  | notFolder
  | isFolder
  | notEmpty
  | tooLong
  | nulInName
  | notRunnable
  deriving DecidableEq, Repr

/-- The words of a fault. -/
def FileFault.words : FileFault → String
  | .absent => "No such file or directory"
  | .denied => "Permission denied"
  | .present => "File exists"
  | .notFolder => "Not a directory"
  | .isFolder => "Is a directory"
  | .notEmpty => "Directory not empty"
  | .tooLong => "File name too long"
  | .nulInName => "file name contained an unexpected NUL byte"
  | .notRunnable => "Exec format error"

/-- The number that a system gives a fault. -/
def FileFault.number? : FileFault → Option Nat
  | .absent => some 2
  | .notRunnable => some 8
  | .denied => some 13
  | .present => some 17
  | .notFolder => some 20
  | .isFolder => some 21
  | .tooLong => some 36
  | .notEmpty => some 39
  | .nulInName => none

def FileFault.message (fault : FileFault) : String :=
  match fault.number? with
  | some n => fault.words ++ " (os error " ++ toString n ++ ")"
  | none => fault.words

/-- What stands at a place. -/
inductive Node where
  | folder
  /-- A file, which can be run as a script or not. -/
  | file (content : List UInt8) (runs : Bool)
  | program
  /-- A file that is always empty and takes everything. -/
  | null
  /-- A file of zeros without an end. -/
  | zeros
  deriving DecidableEq, Repr

/-- A place: the steps from the root to it, the last one first. -/
abbrev Place := List String

/-- The files of a host, and the folder that names start from. -/
structure Files where
  current : Place
  nodes : List (Place × Node)
  deriving DecidableEq, Repr

namespace Files

/-- What stands at a place. The root is a folder. -/
def node? (files : Files) (place : Place) : Option Node :=
  if place.isEmpty then some .folder
  else (files.nodes.find? fun (p, _) => p = place).map (·.2)

/-! ## Names -/

/-- The greatest number of bytes in one step. -/
def maxStep : Nat := 255

/-- The greatest number of bytes in a name. -/
def maxName : Nat := 4095

/-- Where steps lead from a place at which a node stands. Nothing may stand where the last one
leads. -/
def walk (files : Files) : Place → Node → List String → Except FileFault (Place × Option Node)
  | place, node, [] => .ok (place, some node)
  | place, node, step :: steps =>
    if node ≠ .folder then .error .notFolder
    else if step = "" || step = "." then files.walk place node steps
    else if step = ".." then files.walk (place.drop 1) .folder steps
    else if maxStep < step.utf8ByteSize then .error .tooLong
    else
      match files.node? (step :: place) with
      | some node => files.walk (step :: place) node steps
      | none => if steps.isEmpty then .ok (step :: place, none) else .error .absent

/-- Where a name leads, and what stands there, if anything does. -/
def locate (files : Files) (name : String) : Except FileFault (Place × Option Node) :=
  if '\x00' ∈ name.toList then .error .nulInName
  else if name.isEmpty then .error .absent
  else if maxName < name.utf8ByteSize then .error .tooLong
  else
    let start := if name.toList.head? = some '/' then [] else files.current
    files.walk start .folder ((Text.splitOn '/' name.toList).map String.ofList)

/-- Where a name leads to something. -/
def find (files : Files) (name : String) : Except FileFault (Place × Node) :=
  match files.locate name with
  | .ok (place, some node) => .ok (place, node)
  | .ok (_, none) => .error .absent
  | .error fault => .error fault

/-- The bytes of the file that a name leads to. Of a program and of zeros without an end only the
first byte is read. -/
def read (files : Files) (name : String) : Except FileFault (List UInt8) :=
  match files.find name with
  | .ok (_, .file content _) => .ok content
  | .ok (_, .folder) => .error .isFolder
  | .ok (_, .program) => .ok [0x7F]
  | .ok (_, .null) => .ok []
  | .ok (_, .zeros) => .ok [0]
  | .error fault => .error fault

/-- What a folder holds, in order of names. -/
def entries (files : Files) (folder : Place) : List (String × Node) :=
  let inside := files.nodes.filterMap fun (place, node) =>
    match place with
    | step :: rest => if rest = folder then some (step, node) else none
    | [] => none
  inside.mergeSort fun a b => a.1 ≤ b.1

/-! ## Changes -/

/-- The files with a node at a place. -/
def put (files : Files) (place : Place) (node : Node) : Files :=
  if (files.node? place).isSome then
    { files with
      nodes := files.nodes.map fun (p, old) => if p = place then (p, node) else (p, old) }
  else { files with nodes := files.nodes ++ [(place, node)] }

/-- The files without what stands at a place and below it. -/
def remove (files : Files) (place : Place) : Files :=
  { files with nodes := files.nodes.filter fun (p, _) => !place.isSuffixOf p }

/-- The files with what stands at a place, and below it, at another place. -/
def move (files : Files) (source target : Place) : Files :=
  let kept := (files.remove target).nodes
  { files with
    nodes := kept.map fun (p, node) =>
      if source.isSuffixOf p then (p.take (p.length - source.length) ++ target, node)
      else (p, node) }

/-- The file that a name leads to, made if there is none, and emptied if it is asked for. -/
def create (files : Files) (name : String) (emptied : Bool) : Except FileFault (Place × Files) :=
  match files.locate name with
  | .error fault => .error fault
  | .ok (_, some .folder) => .error .isFolder
  | .ok (place, some (.file content runs)) =>
    .ok (place, if emptied then files.put place (.file [] runs) else files.put place
      (.file content runs))
  | .ok (place, some _) => .ok (place, files)
  | .ok (place, none) =>
    if name.toList.getLast? = some '/' then .error .isFolder
    else .ok (place, files.put place (.file [] false))

/-- The files with other bytes from some number of bytes on, at a place where a file stands. What
was left out in between is zero. -/
def write (files : Files) (place : Place) (offset : Nat) (bytes : List UInt8) : Files :=
  match files.node? place with
  | some (.file content runs) =>
    let before := content.take offset ++ List.replicate (offset - content.length) 0
    files.put place (.file (before ++ bytes ++ content.drop (offset + bytes.length)) runs)
  | _ => files

/-! ## Programs -/

/-- The folders that every host has. -/
def systemFolders : List String :=
  ["bin", "boot", "dev", "dev/pts", "dev/shm", "etc", "home", "lib", "lib64", "media", "mnt", "opt",
    "proc", "proc/self", "proc/sys", "root", "run", "sbin", "srv", "sys", "tmp", "usr", "usr/bin",
    "usr/games", "usr/include", "usr/lib", "usr/libexec", "usr/local", "usr/local/bin",
    "usr/local/lib", "usr/local/sbin", "usr/local/share", "usr/sbin", "usr/share", "usr/src", "var",
    "var/cache", "var/lib", "var/log", "var/spool", "var/tmp"]

/-- The files that every host has, with how they start. -/
def systemFiles : List (String × String) :=
  [("etc/passwd", "root:x:0:0:root:/root:/bin/bash\n"), ("etc/group", "root:x:0:\n"),
    ("etc/shadow", "root:*:"), ("etc/hosts", "127.0.0.1\tlocalhost\n"), ("etc/fstab", "# "),
    ("etc/shells", "# "), ("etc/profile", "# "), ("etc/bash.bashrc", "# "),
    ("etc/services", "# "), ("etc/nsswitch.conf", "# "), ("etc/environment", ""),
    ("etc/issue", "Debian GNU/Linux "), ("etc/os-release", "PRETTY_NAME=\""),
    ("etc/resolv.conf", "nameserver "), ("root/.bashrc", "# "), ("root/.profile", "# "),
    ("proc/version", "Linux version "), ("proc/cpuinfo", "processor\t: 0\n"),
    ("proc/meminfo", "MemTotal: "), ("proc/self/status", "Name:\t"),
    ("proc/mounts", "overlay / "), ("proc/self/mounts", "overlay / "),
    ("proc/filesystems", "nodev\tsysfs\n")]

/-- The place of a name without a slash in front. -/
def placeOf (name : String) : Place := ((Text.splitOn '/' name.toList).map String.ofList).reverse

/-- What can be run. -/
inductive Runnable where
  | program (name : String)
  /-- A script. -/
  | script (content : List UInt8)
  deriving DecidableEq, Repr

/-- What a name leads to that can be run. -/
def runnable (files : Files) (name : String) : Except FileFault Runnable :=
  match files.find name with
  | .ok (place, .program) => .ok (.program (place.headD ""))
  | .ok (_, .file content true) => .ok (.script content)
  | .ok _ => .error .denied
  | .error fault => .error fault

/-- The files of a host whose current folder holds some files and whose programs have some names. -/
def ofCurrent (contents : List (String × List UInt8)) (programs : List String) : Files :=
  let current := ["work", "tmp"]
  { current
    nodes := contents.map (fun (name, content) => (name :: current, .file content false)) ++
      (current, .folder) :: systemFolders.map (fun name => (placeOf name, .folder)) ++
      [(["null", "dev"], .null), (["zero", "dev"], .zeros)] ++
      systemFiles.map (fun (name, content) =>
        (placeOf name, .file content.toUTF8.toList false)) ++
      programs.flatMap fun name => [([name, "bin", "usr"], .program), ([name, "bin"], .program)] }

end Files

end PodMesh.Host
