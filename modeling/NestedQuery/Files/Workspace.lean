set_option autoImplicit false

namespace NestedQuery

inductive FileFault
  | absent
  | notDirectory
  | isDirectory
  | nameTooLong
  | zeroByte
  | notText
  | other (message : String)
deriving DecidableEq

def FileFault.message : FileFault → String
  | .absent => "No such file or directory (os error 2)"
  | .notDirectory => "Not a directory (os error 20)"
  | .isDirectory => "Is a directory (os error 21)"
  | .nameTooLong => "File name too long (os error 36)"
  | .zeroByte => "file name contained an unexpected NUL byte"
  | .notText => "stream did not contain valid UTF-8"
  | .other message => message

structure Workspace (m : Type → Type) where
  directory : m String
  present : String → m Bool
  read : String → m (Except FileFault String)
  write : String → String → m (Except FileFault Unit)

end NestedQuery
