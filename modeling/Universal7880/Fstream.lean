import Universal7880.CppText

/-!
# Files and the streams that read and write them

A file stream that writes keeps what is put into it in a buffer: the file gets it when the stream is destroyed, and a write
that fails then is seen by nobody. `File.afterPut` is what such a stream makes of its file, from its open to its destruction
(`Ofstream.destroy_put`); its `fail` tells only whether the open has failed (`Ofstream.fail_put`).
-/

namespace Universal7880

/-- A file: its contents, `none` if it does not exist, and, as a ghost, the texts it has accepted in writes so far. -/
structure File where
  contents : Option CString
  accepted : List CString
  deriving DecidableEq, Repr

/-- What a writer of a file meets: whether the open succeeds, and whether the write does. A write that fails leaves the file
as the open has left it. -/
structure WriteEnv where
  opens : Bool
  writes : Bool
  deriving DecidableEq, Repr

/-- An open for writing creates the file or empties it. -/
def File.truncate (file : File) : File := { file with contents := some [] }

/-- A `write` that succeeds, on a file that was opened. -/
def File.write (file : File) (text : CString) : File :=
  { contents := some (file.contents.getD [] ++ text), accepted := file.accepted ++ [text] }

/-! ## Writing through a stream -/

/-- `std::ofstream`: whether its file is open, what `fail()` says, and what waits in the buffer. -/
structure Ofstream where
  isOpen : Bool
  fail : Bool
  buffer : CString
  deriving DecidableEq, Repr

/-- The constructor of `std::ofstream` from a path. An open that fails leaves the file as it is. -/
def Ofstream.construct (env : WriteEnv) (file : File) : Ofstream × File :=
  if env.opens then (⟨true, false, []⟩, file.truncate) else (⟨false, true, []⟩, file)

/-- `operator<<` fills the buffer of a stream that has not failed. -/
def Ofstream.put (stream : Ofstream) (text : CString) : Ofstream :=
  if stream.fail then stream else { stream with buffer := stream.buffer ++ text }

/-- The destructor writes what waits in the buffer and closes the file. -/
def Ofstream.destroy (env : WriteEnv) (stream : Ofstream) (file : File) : File :=
  if stream.isOpen = true ∧ stream.buffer ≠ [] ∧ env.writes = true then file.write stream.buffer else file

/-- What a stream into which one text is put makes of its file. -/
def File.afterPut (file : File) (env : WriteEnv) (text : CString) : File :=
  if env.opens then
    if env.writes then file.truncate.write text else file.truncate
  else file

/-- A stream fails where its open has failed, whatever its write will do. -/
@[simp] theorem Ofstream.fail_put (env : WriteEnv) (file : File) (text : CString) :
    ((Ofstream.construct env file).1.put text).fail = !env.opens := by
  unfold Ofstream.construct Ofstream.put
  cases env.opens <;> simp

@[simp] theorem Ofstream.destroy_put (env : WriteEnv) (file : File) {text : CString} (h : text ≠ []) :
    ((Ofstream.construct env file).1.put text).destroy env (Ofstream.construct env file).2 = file.afterPut env text := by
  unfold Ofstream.construct Ofstream.put Ofstream.destroy File.afterPut
  cases env.opens <;> simp [h]

/-- A file accepts the text of a stream that opens it and whose write succeeds, and no other. -/
theorem File.accepted_afterPut (file : File) (env : WriteEnv) (text : CString) :
    (file.afterPut env text).accepted =
      if env.opens = true ∧ env.writes = true then file.accepted ++ [text] else file.accepted := by
  cases ho : env.opens <;> cases hw : env.writes <;> simp [File.afterPut, File.truncate, File.write, ho, hw]

/-- A file holds the text of a stream that could open it exactly if its write succeeds: the open has emptied it. -/
theorem File.contents_afterPut {file : File} {env : WriteEnv} {text : CString} (ho : env.opens = true) (ht : text ≠ []) :
    (file.afterPut env text).contents = some text ↔ env.writes = true := by
  cases hw : env.writes <;> simp [File.afterPut, File.truncate, File.write, ho, hw, ht.symm]

/-- A file whose open has failed. -/
theorem File.afterPut_of_not_opens {file : File} {env : WriteEnv} {text : CString} (ho : env.opens = false) :
    file.afterPut env text = file := by
  simp [File.afterPut, ho]

/-! ## Reading -/

/-- `>>` into an `int`, on a `std::ifstream` of a file with these contents, `none` if it cannot be opened: a stream that is
not open fails and stores nothing. -/
def readInt : Option CString → Extraction
  | none => ⟨true, none⟩
  | some text => extractInt text

/-- `android::base::WriteStringToFile`. -/
def writeStringToFile (env : WriteEnv) (content : CString) (file : File) : Bool × File :=
  if env.opens = false then (false, file)
  else if env.writes = false then (false, file.truncate)
  else (true, file.truncate.write content)

/-- A file that was written with success holds the content. -/
theorem contents_of_writeStringToFile {env : WriteEnv} {content : CString} {file file' : File}
    (h : writeStringToFile env content file = (true, file')) : file'.contents = some content := by
  unfold writeStringToFile at h
  split_ifs at h with hopen hwrite
  · cases h
  · cases h
  · obtain rfl := (Prod.mk.inj h).2
    simp [File.write, File.truncate]

/-- A file accepts the content exactly where success is returned. -/
theorem accepted_writeStringToFile (env : WriteEnv) (content : CString) (file : File) :
    (writeStringToFile env content file).2.accepted =
      if (writeStringToFile env content file).1 = true then file.accepted ++ [content] else file.accepted := by
  unfold writeStringToFile
  split_ifs <;> simp_all [File.write, File.truncate]

end Universal7880
