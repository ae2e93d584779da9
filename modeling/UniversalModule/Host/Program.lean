import UniversalModule.Host.Utility.Columns
import UniversalModule.Host.Utility.Differing
import UniversalModule.Host.Utility.Digesting
import UniversalModule.Host.Utility.Dumping
import UniversalModule.Host.Utility.Editing
import UniversalModule.Host.Utility.Finding
import UniversalModule.Host.Utility.Installing
import UniversalModule.Host.Utility.Joining
import UniversalModule.Host.Utility.Listing
import UniversalModule.Host.Utility.Numbers
import UniversalModule.Host.Utility.Pieces
import UniversalModule.Host.Utility.Placing
import UniversalModule.Host.Utility.Refusing
import UniversalModule.Host.Utility.Reporting
import UniversalModule.Host.Utility.Searching
import UniversalModule.Host.Utility.Starting
import UniversalModule.Host.Utility.Telling

/-!
The small programs that are installed beside the shells.
-/

namespace UniversalModule.Host

open Utility (Call Work)

namespace Program

variable {m : Type → Type} [Monad m]

def shell? (name : Text) : Option Shell.Variety :=
  match String.ofList name with
  | "sh" => some .dash
  | "dash" => some .dash
  | "bash" => some .bash
  | _ => none

def digesterOf? (name : Text) : Option Utility.Digester :=
  if "sum".toList.isSuffixOf name then Utility.digester? (name.take (name.length - 3)) else none

def ofName? (call : Call m) (name : Text) : Option (Work m Unit) :=
  match String.ofList name with
  | "[" => some (Utility.condition call true)
  | "awk" => some (Utility.awk call)
  | "base64" => some (Utility.base64 call)
  | "basename" => some (Utility.basename call)
  | "cat" => some (Utility.cat call)
  | "chmod" => some (Utility.chmod call)
  | "cksum" => some (Utility.cksum call)
  | "cmp" => some (Utility.cmp call)
  | "comm" => some (Utility.comm call)
  | "cp" => some (Utility.cp call)
  | "cut" => some (Utility.cut call)
  | "dd" => some (Utility.dd call)
  | "diff" => some (Utility.diff call)
  | "dirname" => some (Utility.dirname call)
  | "echo" => some (Utility.echo call)
  | "egrep" => some (Utility.grep call ["-E".toList])
  | "env" => some (Utility.env call)
  | "expand" => some (Utility.expand call)
  | "expr" => some (Utility.expr call)
  | "factor" => some (Utility.factor call)
  | "false" => some (Utility.giveStatus 1)
  | "fgrep" => some (Utility.grep call ["-F".toList])
  | "find" => some (Utility.find call)
  | "fold" => some (Utility.fold call)
  | "grep" => some (Utility.grep call [])
  | "head" => some (Utility.head call)
  | "id" => some (Utility.identity call)
  | "install" => some (Utility.install call)
  | "join" => some (Utility.join call)
  | "link" => some (Utility.link call)
  | "ln" => some (Utility.ln call)
  | "ls" => some (Utility.ls call)
  | "mawk" => some (Utility.awk call)
  | "mkdir" => some (Utility.mkdir call)
  | "mktemp" => some (Utility.mktemp call)
  | "mv" => some (Utility.mv call)
  | "nice" => some (Utility.nice call)
  | "nl" => some (Utility.nl call)
  | "nohup" => some (Utility.nohup call)
  | "od" => some (Utility.od call)
  | "paste" => some (Utility.paste call)
  | "printenv" => some (Utility.printenv call)
  | "printf" => some (Utility.printf call)
  | "pwd" => some (Utility.workingFolder call)
  | "readlink" => some (Utility.readlink call)
  | "realpath" => some (Utility.realpath call)
  | "rev" => some (Utility.rev call)
  | "rm" => some (Utility.rm call)
  | "rmdir" => some (Utility.rmdir call)
  | "sed" => some (Utility.sed call)
  | "seq" => some (Utility.seq call)
  | "sleep" => some (Utility.sleep call)
  | "sort" => some (Utility.sort call)
  | "split" => some (Utility.split call)
  | "stat" => some (Utility.stat call)
  | "stdbuf" => some (Utility.stdbuf call)
  | "sum" => some (Utility.sum call)
  | "tac" => some (Utility.tac call)
  | "tail" => some (Utility.tail call)
  | "tee" => some (Utility.tee call)
  | "test" => some (Utility.condition call false)
  | "timeout" => some (Utility.timeout call)
  | "touch" => some (Utility.touch call)
  | "tr" => some (Utility.tr call)
  | "true" => some (Utility.giveStatus 0)
  | "truncate" => some (Utility.truncate call)
  | "tty" => some (Utility.terminalName call)
  | "uname" => some (Utility.uname call)
  | "unexpand" => some (Utility.unexpand call)
  | "uniq" => some (Utility.uniq call)
  | "unlink" => some (Utility.unlink call)
  | "wc" => some (Utility.wc call)
  | "which" => some (Utility.which call)
  | "whoami" => some (Utility.printLine "root")
  | "xargs" => some (Utility.xargs call)
  | "yes" => some (Utility.yes call)
  | _ => (digesterOf? name).map (Utility.digesting call)

def names : List Text :=
  Text.splitAt ' ' <| String.toList <|
    "[ awk base64 basename bash cat chmod cksum cmp comm cp cut dash dd diff dirname echo egrep env expand expr factor false " ++
      "fgrep find fold grep head id install join link ln ls mawk md5sum mkdir mktemp mv nice nl nohup od paste printenv printf pwd readlink " ++
      "realpath rev rm rmdir sed seq sh sha1sum sha224sum sha256sum sha384sum sha512sum sleep sort split stat stdbuf sum tac tail tee test timeout touch tr true truncate tty uname unexpand uniq " ++
      "unlink wc which whoami xargs yes"

end Program

end UniversalModule.Host
