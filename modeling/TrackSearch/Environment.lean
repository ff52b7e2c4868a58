import TrackSearch.Path

/-!
The settings that a program inherits: the home directory, the directories for configuration and data
that may stand in for parts of it, and the setting of the log. A variable may be set to nothing.
-/

namespace TrackSearch

structure Environment where
  home : Option String
  configHome : Option String
  dataHome : Option String
  logLevel : Option String
  deriving DecidableEq

namespace Environment

def homePath? (env : Environment) : Option Path := (env.home.filter (!·.isEmpty)).map Path.mk

end Environment

def programDirectory : Path := ⟨"sift"⟩

end TrackSearch
