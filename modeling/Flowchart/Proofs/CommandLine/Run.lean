import Flowchart.CommandLine.Run
import Flowchart.Proofs.CommandLine.Arguments
import Flowchart.Proofs.Files.Renderer
import Flowchart.Proofs.Files.Storage
import Flowchart.Proofs.Render.Session
import Flowchart.Proofs.Walk.Told

/-! Runs of the command line. A run gives the chart that a queue would draw, in the output file or on the
output, or else it gives nothing and leaves all files as they are. -/
namespace Flowchart

namespace CommandLine

/-- Some files and a log, and nothing said yet. -/
def telling (settings : Settings) (s : Storage) (remarks : List Remark) : Machine :=
  ⟨s, "", "", Remark.shown settings.verbose remarks⟩

def told (read : Reader) (source : String) : List Remark := (synthesizeTelling read source).1

/-- The status with which a run ends, and what the machine is then like. -/
inductive Ends (read : Reader) (settings : Settings) (s : Storage) : Nat → Machine → Prop
  | unreadable {fault : FileFault} :
    s.readText settings.input = .error fault →
      Ends read settings s 1
        { Machine.start s with err := (RunFault.unreadable settings.input fault).complaint }
  | noChart {source : String} {fault : Fault} :
    s.readText settings.input = .ok source → read.Fails source fault →
      Ends read settings s 1
        { telling settings s (told read source) with err := (RunFault.noChart fault).complaint }
  | undrawn {source path : String} {g : Graph} {fault : FileFault} :
    s.readText settings.input = .ok source → read.Charts source g →
    settings.output = some path → s.write path (g.render settings.format) = .error fault →
      Ends read settings s 1
        { telling settings s (told read source) with err := (RunFault.undrawn ⟨path, fault⟩).complaint }
  | printed {source : String} {g : Graph} :
    s.readText settings.input = .ok source → read.Charts source g → settings.output = none →
      Ends read settings s 0
        { telling settings s (told read source) with out := g.render settings.format ++ "\n" }
  | written {source path : String} {g : Graph} {s' : Storage} :
    s.readText settings.input = .ok source → read.Charts source g →
    settings.output = some path → s.write path (g.render settings.format) = .ok s' →
      Ends read settings s 0
        { telling settings s' (told read source ++ [.written path]) with out := confirmation path }

variable {read : Reader} {settings : Settings} {s : Storage} {arguments : List String}

section Draw

variable {source path : String} {g : Graph} {fault : Fault} {cause : FileFault} {files : Storage}

variable {machine : Machine} {block : ChartBlock}

end Draw

variable {status : Nat} {left : Machine} {source : String}

theorem Ends.fails (ends : Ends read settings s status left) (failed : status ≠ 0) :
    status = 1 ∧ left.out = "" ∧ left.files = s := by
  cases ends with
  | unreadable _ | noChart _ _ | undrawn _ _ _ _ => exact ⟨rfl, rfl, rfl⟩
  | printed _ _ _ | written _ _ _ _ => exact absurd rfl failed

/-- A script in the folder that is worked in, and a folder beside that one. -/
def scripts : Storage :=
  ((Storage.startingIn ["work"]).addFolder ["charts"]).put ["work", "in.js"] "f".toUTF8

end CommandLine

end Flowchart
