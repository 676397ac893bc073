import TripleSlash.Text

/-! What can go wrong with a file, a directory or a program, and the words for it. -/
namespace TripleSlash

inductive IoError where
  | notFound
  | formatNotExecutable
  | permissionDenied
  | alreadyExists
  | notDirectory
  | isDirectory
  | directoryNotEmpty
  | nameTooLong
  | tooManyLinks
  | invalidUtf8
  | nulInFileName
  | nulInArgument
  | other (text : Text)
deriving DecidableEq, Repr

namespace IoError

def message : IoError → Text
  | notFound => "No such file or directory (os error 2)".toList
  | formatNotExecutable => "Exec format error (os error 8)".toList
  | permissionDenied => "Permission denied (os error 13)".toList
  | alreadyExists => "File exists (os error 17)".toList
  | notDirectory => "Not a directory (os error 20)".toList
  | isDirectory => "Is a directory (os error 21)".toList
  | directoryNotEmpty => "Directory not empty (os error 39)".toList
  | nameTooLong => "File name too long (os error 36)".toList
  | tooManyLinks => "Too many levels of symbolic links (os error 40)".toList
  | invalidUtf8 => "stream did not contain valid UTF-8".toList
  | nulInFileName => "file name contained an unexpected NUL byte".toList
  | nulInArgument => "nul byte found in provided data".toList
  | other text => text

end IoError
end TripleSlash
