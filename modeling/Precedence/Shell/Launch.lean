import Precedence.Shell.Run

namespace Precedence.Shell

/-- A text as its bytes, each the character of its number. -/
def ofBytes (bytes : List UInt8) : Bytes := bytes.map fun b => Char.ofNat b.toNat

def toBytes (cs : Bytes) : List UInt8 := cs.map fun c => c.toNat.toUInt8

def ofString (text : String) : Bytes := ofBytes (Text.Utf8.encode text)

namespace Files

/-- Adds a file at a path, whose directories are made as well. -/
def place (files : Files) (path : String) (node : Node) (mode : Nat) : Files :=
  let parts := (path.toList.splitOn '/').filter (!·.isEmpty)
  let (directory, files) := files.addPath 0 parts.dropLast
  match node, parts.getLast? with
  | .directory .., _ => (files.addPath 0 parts).2
  | _, some name => (files.add directory name node mode).2
  | _, none => files

def users : List String :=
  ["root:x:0:0:root:/root:/bin/bash", "daemon:x:1:1:daemon:/usr/sbin:/usr/sbin/nologin",
    "bin:x:2:2:bin:/bin:/usr/sbin/nologin", "sys:x:3:3:sys:/dev:/usr/sbin/nologin",
    "sync:x:4:65534:sync:/bin:/bin/sync", "games:x:5:60:games:/usr/games:/usr/sbin/nologin",
    "man:x:6:12:man:/var/cache/man:/usr/sbin/nologin",
    "lp:x:7:7:lp:/var/spool/lpd:/usr/sbin/nologin", "mail:x:8:8:mail:/var/mail:/usr/sbin/nologin",
    "news:x:9:9:news:/var/spool/news:/usr/sbin/nologin",
    "uucp:x:10:10:uucp:/var/spool/uucp:/usr/sbin/nologin",
    "proxy:x:13:13:proxy:/bin:/usr/sbin/nologin",
    "www-data:x:33:33:www-data:/var/www:/usr/sbin/nologin",
    "backup:x:34:34:backup:/var/backups:/usr/sbin/nologin",
    "list:x:38:38:Mailing List Manager:/var/list:/usr/sbin/nologin",
    "irc:x:39:39:ircd:/run/ircd:/usr/sbin/nologin",
    "_apt:x:42:65534::/nonexistent:/usr/sbin/nologin",
    "nobody:x:65534:65534:nobody:/nonexistent:/usr/sbin/nologin"]

def standard : Files :=
  let directories := ["/usr/bin", "/usr/sbin", "/usr/local/bin", "/etc", "/home", "/root", "/tmp",
    "/var/tmp", "/proc", "/sys", "/opt", "/mnt", "/run", "/dev/fd", "/dev/shm"]
  let links : List (String × String) := [("/bin", "usr/bin"), ("/sbin", "usr/sbin")]
  let devices : List (String × Device) := [("null", .null), ("zero", .zero), ("full", .full),
    ("random", .zero), ("urandom", .zero), ("stdin", .descriptor 0), ("stdout", .descriptor 1),
    ("stderr", .descriptor 2), ("fd/0", .descriptor 0), ("fd/1", .descriptor 1),
    ("fd/2", .descriptor 2)]
  let tables : List (String × List String) := [("passwd", users), ("hostname", ["localhost"]),
    ("hosts", ["127.0.0.1\tlocalhost"]), ("shells", ["/bin/sh", "/bin/dash", "/bin/bash"])]
  let contents (lines : List String) : Array Char :=
    (String.join (lines.map (· ++ "\n"))).toList.toArray
  let files : Files := {}
  let files := directories.foldl (fun files path => files.place path (.directory 0 []) 0o755) files
  let files := links.foldl
    (fun files (path, target) => files.place path (.link target.toList) 0o777) files
  let files := devices.foldl
    (fun files (name, device) => files.place ("/dev/" ++ name) (.device device) 0o666) files
  let files := tables.foldl (fun files (name, lines) =>
    files.place ("/etc/" ++ name) (.regular (contents lines)) 0o644) files
  Tool.all.foldl (fun files (name, _) =>
    files.place ("/usr/bin/" ++ name) (.program name) 0o755) files

def workplace : String := "/work"

/-- The files that are found with others in the directory that commands work in. -/
def withWork (own : List (String × List UInt8)) : Files :=
  own.foldl (fun files (name, contents) =>
      files.place (workplace ++ "/" ++ name) (.regular (ofBytes contents).toArray) 0o644)
    (standard.place workplace (.directory 0 []) 0o755)

end Files

/-- The steps that a shell may take one inside the other. -/
def fuel : Nat := 1000000

/-- The state of a shell that starts in the world of files. -/
def State.start (files : Files) (environment : List (String × String)) : State :=
  let place := (files.find 0 Files.workplace.toList).toOption.getD 0
  let null := (files.find 0 "/dev/null".toList).toOption.getD 0
  let given : List (String × String) := [("HOME", "/root"),
    ("PATH", "/usr/local/sbin:/usr/local/bin:/usr/sbin:/usr/bin:/sbin:/bin")] ++ environment
  let s : State := { world := { files }, place, here := Files.workplace.toList }
  let s := { s with
    bindings := initialVariables s.parent s.here
      (given.map fun (entry : String × String) => (entry.1.toList, ofString entry.2)) }
  let (input, s) := s.addStream { file := null }
  let (output, _, s) := s.addChannel
  let (errors, _, s) := s.addChannel
  { s with descriptors := [(0, input), (1, output), (2, errors)] }

/-- The greatest number of bytes that a command may have. -/
def longest : Nat := 131071

/-- Runs a command in a shell of its own, and gives the files that it leaves behind. -/
def launchIn (files : Files) (environment : List (String × String)) (command : String) :
    ProcessResult × Files :=
  if '\x00' ∈ command.toList then (.unspawned "nul byte found in provided data", files)
  else if longest < command.utf8ByteSize then
    (.unspawned "Argument list too long (os error 7)", files)
  else
    let start := State.start files environment
    let ((), s) := (do runScript fuel false (ofString command); depart fuel : Action Unit).run start
    let written (descriptor : Nat) : List UInt8 :=
      toBytes (s.streamContents ((start.descriptors.lookup descriptor).getD 0))
    (.ended s.ending (written 1) (written 2), s.world.files)

def launch (command : String) : ProcessResult := (launchIn (Files.withWork []) [] command).1

end Precedence.Shell
