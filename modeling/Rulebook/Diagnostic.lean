namespace Rulebook

-- How an error is reported: a stable code, one line of text, and advice where there is any.
structure Diagnostic where
  code : String
  message : String
  help : Option String
  deriving DecidableEq

end Rulebook
