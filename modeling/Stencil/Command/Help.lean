import Stencil.Text.Basic

/-!
The help text of the command line.
-/
namespace Stencil.Command

def helpText : Text :=
  ("usage: expandkit [-h] [--debug] COMMAND ...\n\n" ++
    "Expands the {placeholders} of templates and keeps their indentation.\n\n" ++
    "  -h, --help             show this text\n" ++
    "  --debug                log everything\n\n" ++
    "expand TEMPLATE          expand a template ('-' for the standard input)\n" ++
    "  -o, --output FILE      write to a file instead of the standard output\n" ++
    "  -D, --define KEY=VALUE give a value on the command line\n" ++
    "  --settings FILE        settings file instead of the nearest one\n" ++
    "  --section NAME         section that supplies values\n" ++
    "  --release-notes FILE   changelog instead of the nearest one\n" ++
    "  --ignore-case          ignore case in the names of release notes\n" ++
    "  --no-env               do not use environment variables\n" ++
    "  --strict               fail when a placeholder is left\n\n" ++
    "names TEMPLATE           list the names used in a template\n\n" ++
    "reindent FILE            replace the indent of a text\n" ++
    "  --indent TEXT          the new indent\n" ++
    "  --tabs                 write spaces for tabs first\n" ++
    "  --strict               fail on lines that are not properly indented\n\n" ++
    "serve                    start the server\n" ++
    "  --host HOST            host to listen on\n" ++
    "  --port NUMBER          number to listen on\n" ++
    "  --reload               start again when a file changes\n").toList

end Stencil.Command
