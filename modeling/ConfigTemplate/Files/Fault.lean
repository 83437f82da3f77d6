/-!
# What can be wrong with a file

The reasons for which the operating system, or the decoding of a file, refuses an access.
-/

namespace ConfigTemplate

/-- The reasons for which a file access fails. -/
inductive FileFault where
  | notFound
  | busy
  | exists
  | notDirectory
  | isDirectory
  | invalidArgument
  | nameTooLong
  | nulInPath
  | notText
  | other (message : String)
deriving DecidableEq

namespace FileFault

/-- The system's message for an error number. -/
def systemMessage (message : String) (number : Nat) : String :=
  message ++ " (os error " ++ toString number ++ ")"

/-- The message of a fault. -/
def message : FileFault → String
  | .notFound => systemMessage "No such file or directory" 2
  | .busy => systemMessage "Device or resource busy" 16
  | .exists => systemMessage "File exists" 17
  | .notDirectory => systemMessage "Not a directory" 20
  | .isDirectory => systemMessage "Is a directory" 21
  | .invalidArgument => systemMessage "Invalid argument" 22
  | .nameTooLong => systemMessage "File name too long" 36
  | .nulInPath => "file name contained an unexpected NUL byte"
  | .notText => "stream did not contain valid UTF-8"
  | .other message => message

end FileFault

end ConfigTemplate
