import TwinRun.Script.Shell

/-!
A fresh simulated machine: the tools in their directory, the devices, and an empty working
directory.
-/

namespace TwinRun.Script

def placeOf (names : List String) : Location := names.map Bytes.ofString

/-- The programs of the machine, each with the tool it is: the shell under all its names, and
the tools. -/
def programs : List (String × String) :=
  [("sh", "sh"), ("dash", "sh"), ("bash", "sh"), ("env", "env")] ++
    Tool.Entry.all.map fun (name, _) => (name, name)

def directories : List (List String) :=
  [["usr"], ["usr", "bin"], ["tmp"], ["root"], ["dev"], ["dev", "fd"]]

def links : List (List String × String) :=
  [(["bin"], "usr/bin")]

def devices : List (List String × Device) :=
  [(["dev", "null"], .null), (["dev", "full"], .full), (["dev", "zero"], .zero), (["dev", "tty"], .terminal),
    (["dev", "stdin"], .descriptor 0), (["dev", "stdout"], .descriptor 1), (["dev", "stderr"], .descriptor 2)] ++
    (List.range 10).map fun n => (["dev", "fd", Decimal.text n], .descriptor n)

def systemFiles : Files where
  nextIdentity := 0
  nodes :=
    directories.map (fun names => (placeOf names, FileNode.directory)) ++
      links.map (fun (names, target) => (placeOf names, FileNode.link (Bytes.ofString target))) ++
      devices.map (fun (names, d) => (placeOf names, FileNode.device d)) ++
      programs.map fun (name, tool) => (placeOf ["usr", "bin", name], FileNode.tool tool)

def workingDirectory : Location := placeOf ["work"]

def environment : List (Bytes × Bytes) :=
  [("LC_ALL", "C"), ("PATH", String.ofList standardPath), ("HOME", "/root")].map fun (name, value) =>
    (Bytes.ofString name, Bytes.ofString value)

/-- A machine on which nothing has been done yet. -/
def machine : World where
  files := systemFiles.put workingDirectory .directory
  directory := workingDirectory
  environment

end TwinRun.Script
