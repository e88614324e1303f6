import WikiDump.Cli.Spec
/-!
# The commands of dumpscan

The root command only groups the others and owns the persistent flags: the configuration file,
the log level and format, pretty output and the number of workers. Below it stand the commands
that read dumps (`tables`, `count`, `dump`, `validate`, `stats`, `filter`), query them (`query`,
`interactive`), load them into SQLite (`export`) and join pages with redirects (`redirects`),
then `help` and the `completion` commands.
-/

namespace WikiDump.Command

open Cli

def textFlag (name : String) (short : Option Char) (initial usage : String) : Flag :=
  { name, short, initial := .text initial, usage }

def formatFlag (short : Option Char) : Flag := textFlag "format" short "jsonl" "Output format (json or jsonl)"

def tableFlag : Flag :=
  { name := "table", short := some 't', initial := .texts [], usage := "Dump to load as [name=]file (repeatable)",
    required := true }

def persistentFlags : List Flag := [
  textFlag "config" (some 'c') "" "YAML configuration file",
  textFlag "log-level" none "warn" "Log level (debug, info, warn, error)",
  textFlag "log-format" none "text" "Log format (text or json)",
  { name := "pretty", initial := .bool false, usage := "Pretty print output" },
  { name := "workers", short := some 'w', initial := .int 1,
    usage := "Parallel workers for commands that scan a whole dump" }]

def completionCommand (shell long : String) : Cli.Command :=
  { path := ["completion", shell], use := shell, short := "Generate the autocompletion script for " ++ shell,
    long, arity := .none, flagsInUseLine := false,
    flags := [{ name := "no-descriptions", initial := .bool false, usage := "disable completion descriptions" }] }

def program : Program := ⟨[
  { path := [], use := "dumpscan",
    short := "Streaming reader for MediaWiki SQL dumps",
    long :=
      "dumpscan reads the INSERT statements of mysqldump output, as published\n" ++
      "for MediaWiki databases, and decodes them into typed rows without executing\n" ++
      "any SQL. Plain files are memory mapped; .gz and .xz files are decompressed\n" ++
      "into memory first.\n" ++
      "\n" ++
      "The table is taken from the file name when it is not given, so\n" ++
      "enwiki-20240101-page.sql.gz is read as the page table.\n" ++
      "\n" ++
      "Examples:\n" ++
      "  dumpscan tables\n" ++
      "  dumpscan count enwiki-20240101-page.sql.gz --workers 8\n" ++
      "  dumpscan dump categorylinks.sql --format json --pretty\n" ++
      "  dumpscan query --table page=page.sql \"SELECT page_namespace, COUNT(page_id) GROUP BY page_namespace\"\n" ++
      "  dumpscan redirects --page page.sql --redirect redirect.sql 0 14",
    persistent := persistentFlags, runnable := false },
  { path := ["tables"], use := "tables",
    short := "List the tables dumpscan can decode",
    arity := .none },
  { path := ["count"], use := "count <file> [table]",
    short := "Count the rows of a dump",
    long :=
      "Decode every row of a dump and print how many there are.\n" ++
      "\n" ++
      "With --workers greater than one the file is split on statement boundaries and\n" ++
      "the parts are decoded in parallel.\n" ++
      "\n" ++
      "Examples:\n" ++
      "  dumpscan count enwiki-20240101-page.sql.gz\n" ++
      "  dumpscan count pages.sql page --workers 8",
    arity := .between 1 2 },
  { path := ["dump"], use := "dump <file> [table]",
    short := "Print the rows of a dump as JSON",
    long :=
      "Decode a dump and print one JSON object per row, in file order.\n" ++
      "\n" ++
      "Examples:\n" ++
      "  dumpscan dump redirect.sql.gz\n" ++
      "  dumpscan dump categorylinks.sql --format json --pretty",
    arity := .between 1 2, flags := [formatFlag (some 'f')] },
  { path := ["validate"], use := "validate <file> [table]",
    short := "Check that every row of a dump decodes",
    long :=
      "Decode a whole dump against its table schema without printing rows.\n" ++
      "\n" ++
      "Reports the row count, or the first error with the input around it.\n" ++
      "\n" ++
      "Examples:\n" ++
      "  dumpscan validate page.sql\n" ++
      "  dumpscan validate enwiki-20240101-langlinks.sql.gz --workers 4",
    arity := .between 1 2 },
  { path := ["stats"], use := "stats <file> [table]",
    short := "Show statistics about a dump",
    long :=
      "Display statistics about a dump: its size and BLAKE3 fingerprint, the\n" ++
      "number of INSERT statements and rows, how many text values could be borrowed\n" ++
      "from the input versus copied, and the NULL count of every column.\n" ++
      "\n" ++
      "Values are tokenized but not converted to their column types; use validate\n" ++
      "for that.\n" ++
      "\n" ++
      "Examples:\n" ++
      "  dumpscan stats page.sql\n" ++
      "  dumpscan stats enwiki-20240101-redirect.sql.gz",
    arity := .between 1 2 },
  { path := ["filter"], use := "filter <file> [table]",
    short := "Print the rows of a dump that match a condition",
    long :=
      "Filter the rows of a dump on column conditions.\n" ++
      "\n" ++
      "Either give a single condition with --field, --op and --value, or an\n" ++
      "expression with --where that may combine conditions with AND, OR and\n" ++
      "parentheses.\n" ++
      "\n" ++
      "Examples:\n" ++
      "  dumpscan filter page.sql --field page_namespace --op \"=\" --value 14\n" ++
      "  dumpscan filter page.sql --field page_title --op contains --value Rock\n" ++
      "  dumpscan filter page.sql --where \"page_is_redirect=true AND (page_namespace=0 OR page_namespace=14)\"",
    arity := .between 1 2, exclusive := [["where", "field"]],
    flags := [
      textFlag "where" none "" "Filter expression (e.g. \"page_len>1000 AND page_namespace=0\")",
      textFlag "field" (some 'f') "" "Column to filter on",
      textFlag "op" (some 'o') "=" "Operator (=, !=, >, >=, <, <=, contains)",
      textFlag "value" (some 'v') "" "Value to compare against",
      formatFlag none] },
  { path := ["query"], use := "query --table [name=]file ... \"SELECT ...\"",
    short := "Run a SQL-like query over one or more dumps",
    long :=
      "Run a SELECT over decoded dump rows.\n" ++
      "\n" ++
      "Each --table loads one dump. The catalog name defaults to the table guessed\n" ++
      "from the file name; name=file picks another name, and when that name is a\n" ++
      "known table its schema is used to decode the file. A query without FROM reads\n" ++
      "the only loaded table.\n" ++
      "\n" ++
      "Supported: SELECT columns, aliases, COUNT/SUM/MIN/MAX/AVG, FROM table or\n" ++
      "(subquery), WHERE with =, !=, <, <=, >, >=, CONTAINS, AND, OR and parentheses,\n" ++
      "GROUP BY one column, LIMIT.\n" ++
      "\n" ++
      "Examples:\n" ++
      "  dumpscan query --table page.sql \"SELECT page_title WHERE page_len > 100000\"\n" ++
      "  dumpscan query --table enwiki-20240101-categorylinks.sql.gz \\\n" ++
      "    \"SELECT cl_to, COUNT(cl_from) AS members FROM categorylinks GROUP BY cl_to\"\n" ++
      "  dumpscan query --explain --table page.sql \"SELECT COUNT(*) FROM page WHERE page_is_redirect = TRUE\"",
    arity := .exactly 1,
    flags := [tableFlag,
      { name := "explain", initial := .bool false, usage := "Print the execution plan instead of running the query" },
      formatFlag none] },
  { path := ["interactive"], use := "interactive --table [name=]file ...",
    short := "Query dumps from an interactive prompt",
    long :=
      "Load one or more dumps once and query them repeatedly.\n" ++
      "\n" ++
      "At the prompt type a SELECT, or a bare filter expression such as\n" ++
      "page_namespace=14 AND page_len>1000 when a single table is loaded.\n" ++
      "\n" ++
      "  \\tables          list the loaded tables\n" ++
      "  \\explain SELECT  print the plan of a query\n" ++
      "  exit, quit       leave",
    arity := .none, flags := [tableFlag] },
  { path := ["export"], use := "export <file> [table] --sqlite out.db",
    short := "Load the rows of a dump into a SQLite database",
    long :=
      "Decode a dump and insert its rows into a table of the same name in a\n" ++
      "SQLite database, creating both when missing. Rows are committed in batches;\n" ++
      "on a decode error the rows of earlier batches stay in the database.\n" ++
      "\n" ++
      "Examples:\n" ++
      "  dumpscan export page.sql --sqlite wiki.db\n" ++
      "  dumpscan export enwiki-20240101-categorylinks.sql.gz --sqlite wiki.db --batch 20000",
    arity := .between 1 2,
    flags := [{ textFlag "sqlite" none "" "SQLite database to write" with required := true },
      { name := "batch", initial := .int 5000, usage := "Rows per transaction" }] },
  { path := ["redirects"], use := "redirects [flags] namespace...",
    short := "Print redirect pages of the given namespaces with their targets",
    long :=
      "Join a page dump with a redirect dump and print one tab separated line\n" ++
      "per redirect page in the given namespaces: the source title and the target\n" ++
      "title, both prefixed with their local namespace name.\n" ++
      "\n" ++
      "Namespace names come from the siteinfo-namespaces.json file of the same dump\n" ++
      "(plain, .gz or .xz).\n" ++
      "\n" ++
      "Examples:\n" ++
      "  dumpscan redirects 10\n" ++
      "  dumpscan redirects --page enwiki-page.sql.gz --redirect enwiki-redirect.sql.gz 0 14",
    arity := .atLeast 1,
    flags := [textFlag "page" (some 'p') "page.sql" "Path to the page dump",
      textFlag "redirect" (some 'r') "redirect.sql" "Path to the redirect dump",
      textFlag "siteinfo" (some 's') "" "Path to siteinfo-namespaces.json (default from config)"] },
  { path := ["help"], use := "help [command]",
    short := "Help about any command",
    long :=
      "Help provides help for any command in the application.\n" ++
      "Simply type dumpscan help [path to command] for full details.",
    isHelp := true },
  { path := ["completion"], use := "completion",
    short := "Generate the autocompletion script for the specified shell",
    long :=
      "Generate the autocompletion script for dumpscan for the specified shell.\n" ++
      "See each sub-command's help for details on how to use the generated script.\n",
    arity := .none, runnable := false },
  completionCommand "bash" (
    "Generate the autocompletion script for the bash shell.\n" ++
    "\n" ++
    "This script depends on the 'bash-completion' package.\n" ++
    "If it is not installed already, you can install it via your OS's package manager.\n" ++
    "\n" ++
    "To load completions in your current shell session:\n" ++
    "\n" ++
    "\tsource <(dumpscan completion bash)\n" ++
    "\n" ++
    "To load completions for every new session, execute once:\n" ++
    "\n" ++
    "#### Linux:\n" ++
    "\n" ++
    "\tdumpscan completion bash > /etc/bash_completion.d/dumpscan\n" ++
    "\n" ++
    "#### macOS:\n" ++
    "\n" ++
    "\tdumpscan completion bash > $(brew --prefix)/etc/bash_completion.d/dumpscan\n" ++
    "\n" ++
    "You will need to start a new shell for this setup to take effect.\n"),
  completionCommand "zsh" (
    "Generate the autocompletion script for the zsh shell.\n" ++
    "\n" ++
    "If shell completion is not already enabled in your environment you will need\n" ++
    "to enable it.  You can execute the following once:\n" ++
    "\n" ++
    "\techo \"autoload -U compinit; compinit\" >> ~/.zshrc\n" ++
    "\n" ++
    "To load completions in your current shell session:\n" ++
    "\n" ++
    "\tsource <(dumpscan completion zsh)\n" ++
    "\n" ++
    "To load completions for every new session, execute once:\n" ++
    "\n" ++
    "#### Linux:\n" ++
    "\n" ++
    "\tdumpscan completion zsh > \"$\x7bfpath[1]\x7d/_dumpscan\"\n" ++
    "\n" ++
    "#### macOS:\n" ++
    "\n" ++
    "\tdumpscan completion zsh > $(brew --prefix)/share/zsh/site-functions/_dumpscan\n" ++
    "\n" ++
    "You will need to start a new shell for this setup to take effect.\n"),
  completionCommand "fish" (
    "Generate the autocompletion script for the fish shell.\n" ++
    "\n" ++
    "To load completions in your current shell session:\n" ++
    "\n" ++
    "\tdumpscan completion fish | source\n" ++
    "\n" ++
    "To load completions for every new session, execute once:\n" ++
    "\n" ++
    "\tdumpscan completion fish > ~/.config/fish/completions/dumpscan.fish\n" ++
    "\n" ++
    "You will need to start a new shell for this setup to take effect.\n"),
  completionCommand "powershell" (
    "Generate the autocompletion script for powershell.\n" ++
    "\n" ++
    "To load completions in your current shell session:\n" ++
    "\n" ++
    "\tdumpscan completion powershell | Out-String | Invoke-Expression\n" ++
    "\n" ++
    "To load completions for every new session, add the output of the above command\n" ++
    "to your powershell profile.\n")]⟩

end WikiDump.Command

