/-! Why an operation of the engine stops; the causes whose text is part of an answer carry it. -/

namespace Adventure

/-- The cause of a failed operation. -/
inductive Fault where
  /-- The game content cannot be used; the message lists what is wrong with it. -/
  | invalidGame (message : String)
  /-- A save could not be written, found or read back. -/
  | saveFailed (message : String)
  /-- A required entry is missing: a field of the content, or the room the player is in. -/
  | missingKey (key : String)
  /-- A value of the wrong kind was used, such as a text where a number belongs. -/
  | wrongKind
  /-- A value of the right kind but a wrong shape, such as a pair of three. -/
  | badValue
  /-- A value lacks an operation that was asked of it, such as a number asked for its keys. -/
  | noSuchOperation
  /-- A text is not well-formed data; the message says where. -/
  | malformedData (message : String)
  /-- A file that was asked for does not exist. -/
  | noSuchFile
  /-- A number is too large for a double. -/
  | tooLarge
  /-- Data, a schema check or a condition is nested deeper than the engine follows. -/
  | tooDeep
  /-- A text holds half of a surrogate pair, which no file text or file name can hold. -/
  | unencodable
  /-- A file pattern starts at the root; patterns are read from the save folder only. -/
  | rootedPattern
  deriving Repr, BEq, Inhabited

end Adventure
