import ScriptDocs.Text.Basic

namespace ScriptDocs.CommandLine

/-!
How the command line is described to its users.
-/

def programName : Text := "run_shdoc.py".toList

def usage : Text :=
  ("usage: run_shdoc.py [-h] [--name NAME] [--find FIND] [--output-dir OUTPUT_DIR]\n" ++
   "                    [--settings SETTINGS] [--log-level LOG_LEVEL]\n" ++
   "                    source\n").toList

def help : Text :=
  usage ++
  ("\n" ++
   "Shell script documentation extractor\n" ++
   "\n" ++
   "positional arguments:\n" ++
   "  source                Path to a shell script or a directory of scripts.\n" ++
   "\n" ++
   "options:\n" ++
   "  -h, --help            show this help message and exit\n" ++
   "  --name NAME           Override the document title (single script only).\n" ++
   "  --find FIND           Only keep constants, variables and methods whose name\n" ++
   "                        contains this text.\n" ++
   "  --output-dir OUTPUT_DIR\n" ++
   "                        Directory for JSON output. Default comes from\n" ++
   "                        settings.\n" ++
   "  --settings SETTINGS   Path to a YAML or JSON settings file.\n" ++
   "  --log-level LOG_LEVEL\n" ++
   "                        Logging level (DEBUG, INFO, WARNING, ERROR).\n" ++
   "\n" ++
   "Examples:\n" ++
   "  python run_shdoc.py script.sh\n" ++
   "  python run_shdoc.py script.sh --find log_\n" ++
   "  python run_shdoc.py scripts/ --output-dir out/docs\n").toList

def misuseText (message : Text) : Text :=
  usage ++ programName ++ ": error: ".toList ++ message ++ ['\n']

end ScriptDocs.CommandLine
