/-! What the library asks of a disk. -/
namespace DeviceConnect

inductive FileError where
  | notFound
  | alreadyExists
  | notADirectory
  | isADirectory
  | nameTooLong
  | nulInName
  | notText
  deriving DecidableEq

def FileError.message : FileError → String
  | notFound => "No such file or directory (os error 2)"
  | alreadyExists => "File exists (os error 17)"
  | notADirectory => "Not a directory (os error 20)"
  | isADirectory => "Is a directory (os error 21)"
  | nameTooLong => "File name too long (os error 36)"
  | nulInName => "file name contained an unexpected NUL byte"
  | notText => "stream did not contain valid UTF-8"

structure Disk (φ : Type) where
  read : String → φ → Except FileError ByteArray
  createDirs : String → φ → Except FileError Unit × φ
  write : String → String → φ → Except FileError Unit × φ

end DeviceConnect
