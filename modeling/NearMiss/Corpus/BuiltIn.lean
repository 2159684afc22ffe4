import NearMiss.Corpus

/-!
# The built-in corpus

Interface methods of the standard library that a checker knows when it is given no corpus.
-/

namespace NearMiss.Corpus

/-- Package, interface and declaration of each built-in entry. -/
def builtInDeclarations : List (String × String × String) := [
  ("io", "Reader", "Read(p []byte) (n int, err error)"),
  ("io", "Writer", "Write(p []byte) (n int, err error)"),
  ("io", "ReaderAt", "ReadAt(p []byte, off int64) (n int, err error)"),
  ("io", "WriterAt", "WriteAt(p []byte, off int64) (n int, err error)"),
  ("io", "Seeker", "Seek(offset int64, whence int) (int64, error)"),
  ("io", "ReaderFrom", "ReadFrom(r Reader) (n int64, err error)"),
  ("io", "WriterTo", "WriteTo(w Writer) (n int64, err error)"),
  ("io", "ByteWriter", "WriteByte(c byte) error"),
  ("io", "StringWriter", "WriteString(s string) (n int, err error)"),
  ("fmt", "Formatter", "Format(f State, verb rune)"),
  ("fmt", "Scanner", "Scan(state ScanState, verb rune) error"),
  ("sort", "Interface", "Less(i, j int) bool"),
  ("sort", "Interface", "Swap(i, j int)"),
  ("encoding", "BinaryUnmarshaler", "UnmarshalBinary(data []byte) error"),
  ("encoding", "TextUnmarshaler", "UnmarshalText(text []byte) error"),
  ("encoding/json", "Unmarshaler", "UnmarshalJSON([]byte) error"),
  ("flag", "Value", "Set(string) error"),
  ("database/sql", "Scanner", "Scan(src any) error"),
  ("net/http", "ResponseWriter", "Write([]byte) (int, error)"),
  ("net/http", "ResponseWriter", "WriteHeader(statusCode int)"),
  ("net/http", "Handler", "ServeHTTP(ResponseWriter, *Request)"),
  ("log/slog", "Handler", "WithAttrs(attrs []Attr) Handler")]

/-- The built-in corpus. -/
def builtIn : Corpus :=
  builtInDeclarations.map fun (package, interface, signature) =>
    InterfaceMethod.ofSignature package interface signature

end NearMiss.Corpus
