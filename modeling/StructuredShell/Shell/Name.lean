import StructuredShell.Text.Word

/-!
# Names in shell code

Which names generated code may define. A name must be a word, must not be one the shell or the
usual utilities already give a meaning, and must stay out of the names that generated code keeps for
itself.
-/

set_option autoImplicit false

namespace StructuredShell.Shell

/-! ## Names with a meaning of their own -/

def reservedWords : List String := [
  "if", "then", "else", "elif", "fi", "case", "esac", "for", "while", "until", "do", "done", "in",
  "function", "select", "time"]

def builtins : List String := [
  "alias", "bg", "break", "cd", "command", "continue", "declare", "echo", "eval", "exec", "exit",
  "export", "false", "fc", "fg", "getopts", "hash", "jobs", "kill", "let", "local", "printf", "pwd",
  "read", "readonly", "return", "set", "shift", "source", "test", "times", "trap", "true", "type",
  "typeset", "ulimit", "umask", "unalias", "unset", "wait"]

def utilities : List String := [
  "awk", "basename", "cat", "chmod", "chown", "cmp", "cp", "cut", "date", "dd", "df", "diff",
  "dirname", "du", "env", "expr", "file", "find", "grep", "head", "id", "join", "ln", "ls", "mkdir",
  "mkfifo", "mktemp", "mv", "nohup", "od", "paste", "ps", "rm", "rmdir", "sed", "sh", "sleep",
  "sort", "split", "stat", "tail", "tar", "tee", "touch", "tr", "tty", "uname", "uniq", "wc",
  "which", "xargs"]

def specialVariables : List String := [
  "CDPATH", "ENV", "HOME", "IFS", "LANG", "LINENO", "MAIL", "OLDPWD", "OPTARG", "OPTIND", "PATH",
  "PPID", "PS1", "PS2", "PS4", "PWD", "RANDOM", "SECONDS", "SHELL"]

def reservedNames : List String :=
  reservedWords ++ builtins ++ utilities ++ specialVariables

def isReserved (name : String) : Bool :=
  reservedNames.contains name

/-! ## Names of generated code -/

def resultName : String := "__ret"

def temporaryName (index : Nat) : String := "__t" ++ index.repr

def isInternal (name : String) : Bool :=
  match name.toList with
  | '_' :: '_' :: _ => true
  | _ => false

/-- Whether generated code may define a name for something of the source program. -/
def isDefinable (name : String) : Bool :=
  Text.isWord name && !isReserved name && !isInternal name

end StructuredShell.Shell
