import AxisMixer.Text.Quoted

/-!
# Errors of the operating system
-/

namespace AxisMixer

/-- A call to the operating system that failed, with the number of the error, its description, and
the file if the call was about one. -/
structure SystemError where
  number : Int
  description : String
  file : Option String := none
  deriving DecidableEq, Repr

namespace SystemError

def message (e : SystemError) : String :=
  "[Errno " ++ toString e.number ++ "] " ++ e.description ++
    match e.file with
    | none => ""
    | some file => ": " ++ Text.quoted file

def noSuchFile : SystemError := ⟨2, "No such file or directory", none⟩

def notADirectory : SystemError := ⟨20, "Not a directory", none⟩

def isADirectory : SystemError := ⟨21, "Is a directory", none⟩

def nameTooLong : SystemError := ⟨36, "File name too long", none⟩

def permissionDenied : SystemError := ⟨13, "Permission denied", none⟩

/-- The error with this number, in the usual words for it if there are any. -/
def ofNumber (number : Int) (description : String) : SystemError :=
  let usual := [noSuchFile, permissionDenied, notADirectory, isADirectory, nameTooLong]
  (usual.find? fun e => e.number == number).getD ⟨number, description, none⟩

/-- The number of the error by which a device reports that it is gone. -/
def noSuchDevice : Int := 19

end SystemError

end AxisMixer
