import Rehearsal.Settings.Data

namespace Rehearsal

-- What a text holds. Its lists and maps may stand at places of its own, which begin where others
-- end.
structure Content (next : Nat) where
  memory : Memory
  root : Data
  sound : (root :: memory).all (·.isSound next (next + memory.length)) = true

-- Why a text has no content: it is not well formed, or an error of some name broke its reading off.
inductive Content.Fault where
  | invalid
  | brokenOff (error : String)
  deriving DecidableEq, Repr

-- How deep data usually may be. It is enough for the defaults.
def commonDepth : Nat := 480

theorem le_commonDepth : 3 ≤ commonDepth := by decide

-- What a run depends on besides files and variables: how texts are read and printed, and how deep
-- data may be for what is done with it.
structure Platform where
  read : (next : Nat) → String → Except Content.Fault (Content next)
  print : String → String
  -- How deep settings are merged and expanded. The defaults are no problem.
  depth : Nat
  roomy : 3 ≤ depth
  -- How deep a list or a map is written.
  writingDepth : Nat

end Rehearsal
