import CommandAdvisor.Risk.Registry

/-!
# The built-in registry

The rules for the usual commands of a Unix shell.
-/
namespace CommandAdvisor.Risk

namespace BuiltIn

/-- Commands that change files or settings. -/
def highRiskCommands : List Text := [
  "del", "rmdir", "format", "fdisk", "dd",
  "chmod", "chown", "chgrp", "usermod", "userdel",
  "shutdown", "reboot", "poweroff", "halt",
  "iptables", "ufw", "firewall-cmd",
  "mount", "umount", "mkfs", "fsck",
  "kill", "killall", "pkill",
  "sudo", "su", "passwd"]

/-- The dangerous commands; removing files is the one critical one. -/
def dangerousCommands : List (Text × Level) :=
  ("rm", .critical) :: highRiskCommands.map (·, .high)

/-- Flags that skip questions or reach further than one file. -/
def dangerousFlags : List Text := [
  "-rf", "-fr", "-r", "-f", "--force", "--no-preserve-root",
  "-y", "--yes", "--assume-yes", "--no-confirm"]

/-- Directories that belong to the system. -/
def systemPaths : List Text := ["/etc/", "/usr/", "/var/", "/sys/", "/proc/", "/dev/"]

/-- What is said about critical commands. -/
def criticalNotes : List (Text × Text) := [("rm", "rm command can permanently delete files")]

/-- What commands do. -/
def explanations : List (Text × Text) := [
  ("ls", "Lists files and directories in the current location"),
  ("find", "Searches for files and directories based on criteria"),
  ("grep", "Searches for text patterns in files"),
  ("tar", "Creates or extracts compressed archive files"),
  ("curl", "Transfers data to/from URLs (safe for reading)"),
  ("git", "Version control system commands"),
  ("ps", "Shows running processes"),
  ("df", "Shows disk space usage")]

/-- What may be run instead. -/
def alternatives : List (Text × List Text) := [
  ("rm", [
    "Use trash-cli: `trash-put filename` (moves to trash)",
    "Use safe-rm: `safe-rm filename` (has built-in protections)",
    "Move to .trash directory: `mv filename ~/.trash/`"]),
  ("find", [
    "Add -type f to only find files: `find . -type f -name \"*.txt\"`",
    "Use -print0 with xargs for safer handling"]),
  ("chmod", [
    "Use symbolic modes: `chmod u+x script.sh` instead of numeric",
    "Check current permissions first: `ls -la filename`"])]

/-- Flags that do no harm. -/
def safeFlags : List (Text × List Text) := [
  ("ls", ["-la", "-lh", "-ltr", "-1"]),
  ("find", ["-type f", "-type d", "-name", "-iname"]),
  ("grep", ["-i", "-n", "-r", "-l"]),
  ("tar", ["-tzf", "-czf", "-xzf"]),
  ("curl", ["-I", "-s", "-L", "-o"])]

/-- A sample rule for the command lines that start with a word and go on behind it. -/
def forCommand (priority : Int) (word output : Text) (samples : List Text) : MockRule :=
  ⟨priority, ⟨true, word.map .letter ++ [.blanks]⟩, output, samples⟩

/-- The sample output of listing files, which needs no argument. -/
def listing : MockRule :=
  ⟨10, ⟨true, [.letter 'l', .letter 's', .boundary]⟩,
    "file1.txt  file2.js  documents/  pictures/  downloads/",
    ["ls -la", "ls -lh", "ls *.txt"]⟩

/-- Sample outputs of the usual commands. -/
def mockOutputs : List MockRule := [
  listing,
  forCommand 20 "find"
    "./documents/report.pdf\n./pictures/vacation.jpg\n./downloads/installer.sh"
    ["find . -name \"*.txt\"", "find /home -type f"],
  forCommand 30 "grep"
    ("line 42: const result = data.filter(item => item.active)\n" ++
      "line 156: return activeItems.length")
    ["grep -r \"pattern\" .", "grep \"error\" log.txt"],
  forCommand 40 "tar"
    "archive.tar.gz\nfile1.txt\nfile2.js\ndocuments/"
    ["tar -xzvf archive.tar.gz", "tar -czf backup.tar.gz folder/"],
  forCommand 50 "curl"
    ("HTTP/1.1 200 OK\nContent-Type: application/json\n" ++
      "\x7b\"status\": \"success\", \"data\": \x7b...\x7d\x7d")
    ["curl https://api.example.com", "curl -X POST -d \"data\" url"],
  forCommand 60 "git"
    ("On branch main\nYour branch is up to date with 'origin/main'.\n\n" ++
      "nothing to commit, working tree clean")
    ["git status", "git log --oneline", "git diff HEAD~1"],
  forCommand 70 "ps"
    ("  PID TTY          TIME CMD\n 1234 pts/0    00:00:00 bash\n" ++
      " 5678 pts/0    00:00:01 node\n 9012 pts/0    00:00:00 ps")
    ["ps aux", "ps -ef | grep node"],
  forCommand 80 "df"
    ("Filesystem     1K-blocks    Used Available Use% Mounted on\n" ++
      "/dev/sda1       10255636 3567096   6174468  37% /\n" ++
      "tmpfs             816896       0    816896   0% /dev/shm")
    ["df -h", "df -T"]]

/-- All tables together. -/
def tables : Tables Level :=
  { dangerousCommands, dangerousFlags, systemPaths, explanations, alternatives, safeFlags
    criticalNotes, mockOutputs }

end BuiltIn

/-- The registry that is used when no other is given. -/
def Registry.builtIn : Registry where
  tables := BuiltIn.tables
  keys_lower := by decide +kernel
  high_le_tier := by decide +kernel
  priorities_ascending := by decide +kernel

end CommandAdvisor.Risk
