/-!
# Configuration

Two switches say what formatting does.  What is not given of them has its standard state.
-/

namespace GCode

/-- What formatting does. -/
structure Configuration where
  /-- Whether the trivia around every token is recomputed; if not, statements pass unchanged. -/
  normaliseWhitespace : Bool := true
  /-- Whether comments are dropped while trivia is recomputed. -/
  removeAllComments : Bool := false
deriving DecidableEq, Repr

namespace Configuration

/-- The configuration that recomputes trivia and keeps comments. -/
def standard : Configuration := {}

/-- Sets whether trivia is recomputed. -/
def withNormaliseWhitespace (normalise : Bool) (configuration : Configuration) : Configuration :=
  { configuration with normaliseWhitespace := normalise }

/-- Sets whether comments are dropped. -/
def withRemoveAllComments (remove : Bool) (configuration : Configuration) : Configuration :=
  { configuration with removeAllComments := remove }

end Configuration

/-- The switches of a configuration. -/
inductive Switch where
  | normaliseWhitespace
  | removeAllComments
deriving DecidableEq, Repr

namespace Switch

/-- The switches in the order of their declaration. -/
def all : List Switch := [normaliseWhitespace, removeAllComments]

/-- The name of a switch outside the program. -/
def name : Switch → String
  | normaliseWhitespace => "normaliseWhitespace"
  | removeAllComments => "removeAllComments"

/-- The switch of a name, if it is the name of one. -/
def ofName? (name : String) : Option Switch :=
  if name = normaliseWhitespace.name then some normaliseWhitespace
  else if name = removeAllComments.name then some removeAllComments
  else none

end Switch

namespace Configuration

/-- The state of a switch. -/
def get (switch : Switch) (configuration : Configuration) : Bool :=
  match switch with
  | .normaliseWhitespace => configuration.normaliseWhitespace
  | .removeAllComments => configuration.removeAllComments

/-- Sets a switch. -/
def set (switch : Switch) (state : Bool) : Configuration → Configuration :=
  match switch with
  | .normaliseWhitespace => withNormaliseWhitespace state
  | .removeAllComments => withRemoveAllComments state

end Configuration

/-- The states that have been given to the switches so far. -/
structure Given where
  /-- The state given for `normaliseWhitespace`. -/
  normaliseWhitespace : Option Bool := none
  /-- The state given for `removeAllComments`. -/
  removeAllComments : Option Bool := none

namespace Given

/-- The state given for a switch. -/
def get (switch : Switch) (given : Given) : Option Bool :=
  match switch with
  | .normaliseWhitespace => given.normaliseWhitespace
  | .removeAllComments => given.removeAllComments

/-- Gives a state to a switch. -/
def set (switch : Switch) (state : Bool) (given : Given) : Given :=
  match switch with
  | .normaliseWhitespace => { given with normaliseWhitespace := some state }
  | .removeAllComments => { given with removeAllComments := some state }

/-- The configuration with the given states, and with the standard ones where none is given. -/
def configuration (given : Given) : Configuration where
  normaliseWhitespace := given.normaliseWhitespace.getD Configuration.standard.normaliseWhitespace
  removeAllComments := given.removeAllComments.getD Configuration.standard.removeAllComments

end Given
end GCode
