import Tablewright.FileTree

namespace Tablewright.FileTree

def bareDirectories : List Location :=
  [["boot"], ["dev"], ["etc"], ["home"], ["media"], ["mnt"], ["opt"], ["proc"], ["root"],
    ["run"], ["srv"], ["sys"], ["tmp"], ["usr"], ["usr", "bin"], ["usr", "lib"],
    ["usr", "local"], ["usr", "local", "bin"], ["usr", "local", "sbin"], ["usr", "sbin"],
    ["usr", "share"], ["var"]]

def bareLinks : List (Location × String) :=
  [(["bin"], "usr/bin"), (["lib"], "usr/lib"), (["sbin"], "usr/sbin")]

def bareFiles : List Location :=
  [["dev", "null"], ["etc", "passwd"], ["usr", "bin", "false"], ["usr", "bin", "true"]]

def bareNodes : List (Location × Node) :=
  bareDirectories.map (·, .directory) ++
    bareLinks.map (fun link => (link.1, .link link.2)) ++
    bareFiles.map (·, .file .empty true)

def bare (here : Location) : FileTree :=
  let start := empty here
  { start with
    nodes := start.nodes ++ bareNodes.filter fun entry => (start.node? entry.1).isNone }

end Tablewright.FileTree
