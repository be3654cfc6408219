import NotebookGuard.World
import NotebookGuard.Machine.Scene

/-!
# Worlds set in scenes

A scene sets up the files and the machine of a run; the world of the run
starts there, in the scene's directory, at time zero, with the machine's tools
set up by the run's configuration.
-/

namespace NotebookGuard

/-- The world of a run set in a scene, its tools set up by a configuration for
a project at the scene's directory. -/
def Scene.world (s : Scene) (c : Config) : Except String World := do
  let (files, m) ← s.setup
  return { files, freePort := m.freePort, cwd := s.dir, machine := some (m.configure c s.dir) }

namespace World

/-- The calls the stand-ins answered, in order, each as `{kind, payload}`. -/
def requests (w : World) : List Json := (w.machine.map (·.requests)).getD []

/-- The world with its machine changed. -/
def withMachine (w : World) (f : Machine → Machine) : World := { w with machine := w.machine.map f }

end World

end NotebookGuard
