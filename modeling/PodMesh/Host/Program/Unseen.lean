import PodMesh.Host.Effect

/-!
# Programs known by their options

Programs of which it is known what options they have, but not what they do: they complain
about other options, and do nothing otherwise.
-/

namespace PodMesh.Host.Program

/-- Programs with their options, those that take a value, and the status that a complaint about
another one ends with. -/
def unseen : List (String × String × String × Nat) :=
  [("arch", "", "", 1), ("b2sum", "bctwz", "l", 1), ("base32", "di", "w", 1),
    ("base64", "di", "w", 1), ("basenc", "di", "w", 1), ("cksum", "bctwz", "al", 1),
    ("comm", "z123", "", 1), ("csplit", "kqsz", "bfn", 1), ("date", "uIR", "dfrs", 1),
    ("dd", "", "", 1), ("df", "ahiklmvHPT", "txBF", 1),
    ("diff", "abcdefhilnpqrstuvwyBEHNPTZ0123456789", "xCDFILSUWX", 2),
    ("dir", "abcdfghiklmnopqrstuvxABCDFGHLNQRSUXZ1", "wIT", 2), ("dircolors", "bcp", "", 1),
    ("du", "abchklmsxDHLPS0", "dtBX", 1), ("expand", "i0123456789", "t", 1),
    ("factor", "h", "", 1), ("fmt", "cstu0123456789", "gpw", 1), ("fold", "bs0123456789", "w", 1),
    ("groups", "", "", 1), ("hostid", "", "", 1), ("install", "bcdpsvCDTZ", "gmotS", 1),
    ("join", "iz", "aejotv12", 1), ("link", "", "", 1), ("ln", "bdfinrsvFLPT", "tS", 1),
    ("logname", "", "", 1), ("md5sum", "bctwz", "", 1), ("mkfifo", "Z", "m", 1),
    ("mknod", "Z", "m", 1), ("mktemp", "dqtuV", "p", 1), ("more", "cdefhlpsuV0123456789", "n", 1),
    ("nproc", "", "", 1), ("numfmt", "z", "d", 1), ("od", "abcdefhilosvwxBDFHILOX", "jtANS", 1),
    ("pathchk", "pP", "", 1), ("pinky", "bfhilpqsw", "", 1),
    ("pr", "abcdefimnrstvFJST0123456789", "hlowDNW", 1), ("ptx", "frtAGORT", "bgiowFMSW", 1),
    ("readlink", "efmnqsvz", "", 1), ("realpath", "emqszLP", "", 1), ("sha1sum", "bctwz", "", 1),
    ("sha224sum", "bctwz", "", 1), ("sha256sum", "bctwz", "", 1), ("sha384sum", "bctwz", "", 1),
    ("sha512sum", "bctwz", "", 1), ("shuf", "erz", "ino", 1),
    ("split", "deux0123456789", "ablntC", 1), ("stat", "ftL", "c", 1), ("sum", "rs", "", 1),
    ("sync", "df", "", 1), ("truncate", "co", "rs", 1), ("tsort", "", "", 1), ("tty", "s", "", 2),
    ("unexpand", "a0123456789", "t", 1), ("unlink", "", "", 1), ("users", "", "", 1),
    ("vdir", "abcdfghiklmnopqrstuvxABCDFGHLNQRSUXZ1", "wIT", 2), ("who", "abdlmpqrstuwHT", "", 1)]

/-- Starts a program that is known by its options. -/
def runUnseen (plain valued : String) (status : Nat) (call : Call) : Effect :=
  call.withOptions { plain := plain.toList, valued := valued.toList } status fun _ _ => {}

end PodMesh.Host.Program
