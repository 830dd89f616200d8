import ScriptAssist.Completion.Table

namespace ScriptAssist.Completion.Tables

/-- The statements and functions that are offered, in display order. -/
def builtInCatalog : List Entry :=
  [
    ⟨0, "ifelse (example)", .function⟩,
    ⟨1, "foreach (example)", .function⟩,
    ⟨2, "MAX", .function⟩,
    ⟨3, "MIN", .function⟩,
    ⟨4, "ROUND", .function⟩,
    ⟨5, "CONCAT", .function⟩,
    ⟨6, "SUBSTR", .function⟩,
    ⟨7, "STRLEN", .function⟩,
    ⟨8, "CURDATE", .function⟩,
    ⟨9, "DATEADD", .function⟩,
    ⟨10, "DATEDIFF", .function⟩,
    ⟨11, "DTADD", .function⟩,
    ⟨12, "PAD", .function⟩,
    ⟨13, "EXTRACT_BEFORE", .function⟩,
    ⟨14, "EXTRACT_AFTER", .function⟩,
    ⟨15, "aws_sign_string", .function⟩,
    ⟨16, "basename", .function⟩,
    ⟨17, "basename as", .function⟩,
    ⟨18, "clear http_headers", .function⟩,
    ⟨19, "discard", .function⟩,
    ⟨20, "encode base16", .function⟩,
    ⟨21, "encode base64", .function⟩,
    ⟨22, "encrypt", .function⟩,
    ⟨23, "environment", .function⟩,
    ⟨24, "escape", .function⟩,
    ⟨25, "exit_loop", .function⟩,
    ⟨26, "generate_jwt", .function⟩,
    ⟨27, "get_last_day_of", .function⟩,
    ⟨28, "gunzip file", .function⟩,
    ⟨29, "gunzip buffer", .function⟩,
    ⟨30, "hash sha256", .function⟩,
    ⟨31, "hash md5", .function⟩,
    ⟨32, "http", .function⟩,
    ⟨33, "http dump_headers", .function⟩,
    ⟨34, "http get_header", .function⟩,
    ⟨35, "json", .function⟩,
    ⟨36, "loglevel", .function⟩,
    ⟨37, "pause", .function⟩,
    ⟨38, "print", .function⟩,
    ⟨39, "save", .function⟩,
    ⟨40, "set", .function⟩,
    ⟨41, "terminate", .function⟩,
    ⟨42, "terminate with error", .function⟩,
    ⟨43, "unzip", .function⟩,
    ⟨44, "uri encode", .function⟩,
    ⟨45, "uri component-encode", .function⟩,
    ⟨46, "uri aws-object-encode", .function⟩,
    ⟨47, "buffer", .function⟩,
    ⟨48, "csv", .function⟩,
    ⟨49, "csv add_headers", .function⟩,
    ⟨50, "csv fix_headers", .function⟩,
    ⟨51, "csv write_fields", .function⟩,
    ⟨52, "csv close", .function⟩,
    ⟨53, "decimal_to_ipv4", .function⟩,
    ⟨54, "decimal_to_ipv4 as", .function⟩,
    ⟨55, "gosub", .function⟩,
    ⟨56, "ipv4_to_decimal", .function⟩,
    ⟨57, "ipv4_to_decimal as", .function⟩,
    ⟨58, "loop", .function⟩,
    ⟨59, "lowercase", .function⟩,
    ⟨60, "match", .function⟩,
    ⟨61, "return", .function⟩,
    ⟨62, "subroutine", .function⟩,
    ⟨63, "uppercase", .function⟩
  ]

/-- The resolutions of the built-in catalog. -/
def builtInResolutions : List (Int × Resolution) :=
  [
    (0,
      { label := "ifelse (example)"
        insertText := "if ($\x7b1:condition\x7d) \x7b\n\t$0\n\x7d else \x7b\n\t\n\x7d"
        documentation := "If-Else Statement"
        category := some .snippet }),
    (1,
      { label := "foreach (example)"
        insertText :=
          ("foreach \\$JSON\x7b$\x7b1:RESPONSE\x7d\x7d.[KEY] as record \x7b\n\tcsv " ++
           "write_fields my_csv \\$JSON(record).[my_key]\n\x7d")
        documentation := "Example for looping over a JSON response payload"
        category := some .snippet }),
    (2,
      { label := "MAX"
        insertText := "@MAX($\x7b1:<number>\x7d, $\x7b2:<number>\x7d $\x7b3:[, <number> ...]\x7d)"
        documentation :=
          ("Returns the largest number from the specified list (requires at least 2 " ++
           "arguments).") }),
    (3,
      { label := "MIN"
        insertText := "@MIN($\x7b1:<number>\x7d, $\x7b2:<number>\x7d $\x7b3:[, <number> ...]\x7d)"
        documentation :=
          ("Returns the smallest number from the specified list (requires at least 2 " ++
           "arguments).") }),
    (4,
      { label := "ROUND"
        insertText := "@ROUND($\x7b1:<number>\x7d $\x7b2:[, <digits>]\x7d)"
        documentation :=
          ("Returns number rounded to digits decimal places. If the digits argument is not " ++
           "specified then the function will round to the nearest integer.") }),
    (5,
      { label := "CONCAT"
        insertText :=
          ("@CONCAT($\x7b1:<string1>\x7d, $\x7b2:<string2>\x7d $\x7b3:[, <stringN> " ++
           "...]\x7d)")
        documentation :=
          "Treats all its arguments as strings, concatenates them, and returns the result." }),
    (6,
      { label := "SUBSTR"
        insertText := "@SUBSTR($\x7b1:<string>\x7d, $\x7b2:<start>\x7d $\x7b3:[, <length>]\x7d)"
        documentation :=
          ("Returns a sub-string of string, starting from the character at position start " ++
           "and continuing until the end of the string end until the character at position " ++
           "length, whichever is shorter.") }),
    (7,
      { label := "STRLEN"
        insertText := "@STRLEN($\x7b1:<string>\x7d)"
        documentation := "Returns the length of its argument in bytes." }),
    (8,
      { label := "CURDATE"
        insertText := "@CURDATE()"
        documentation :=
          ("Returns the current (actual) date in the timezone of the Exivity server. The " ++
           "format may be any valid combination of strftime specifiers. The default format " ++
           "is %Y%m%d which returns a date in yyyyMMdd format") }),
    (9,
      { label := "DATEADD"
        insertText := "@DATEADD($\x7b1:<date>\x7d, $\x7b2:<days>\x7d)"
        documentation :=
          ("Adds a specified number of days to the given date, returning the result as a " ++
           "*yyyyMMdd* date.") }),
    (10,
      { label := "DATEDIFF"
        insertText := "@DATEDIFF($\x7b1:<date1>\x7d, $\x7b2:<date2>\x7d)"
        documentation :=
          ("Returns the difference in days between two yyyyMMdd dates. A positive result " ++
           "means that date1 is later than date2. A negative result means that date2 is " ++
           "later than date1. A result of 0 means that the two dates are the same.") }),
    (11,
      { label := "DTADD"
        insertText := "@DTADD($\x7b1:<datetime>\x7d, $\x7b2:<count>\x7d $\x7b3:[, <units>]\x7d)"
        documentation :=
          ("Adds count number of unit_s (DAYS by default) to the specified datetime value " ++
           "and return normalised result datetime value in YYYYMMDDhhmmss_ format.") }),
    (12,
      { label := "PAD"
        insertText := "@PAD($\x7b1:<width>\x7d, $\x7b2:<value>\x7d $\x7b3:[, <pad_char>]\x7d)"
        documentation :=
          ("Returns value, left-padded with pad_char (0 by default) up to specified width. " ++
           "If width is less than or equal to the width of value, no padding occurs.") }),
    (13,
      { label := "EXTRACT_BEFORE"
        insertText := "@EXTRACT_BEFORE($\x7b1:<string>\x7d, $\x7b2:<pattern>\x7d)"
        documentation :=
          ("Returns the substring of string that precedes the pattern. If pattern cannot " ++
           "be found in the string, or either string or pattern are empty, result of the " ++
           "function is empty string.") }),
    (14,
      { label := "EXTRACT_AFTER"
        insertText := "@EXTRACT_AFTER($\x7b1:<string>\x7d, $\x7b2:<pattern>\x7d)"
        documentation :=
          ("Returns the substring of string that follows the pattern. If pattern cannot be " ++
           "found in the string, or either string or pattern are empty, result of the " ++
           "function is empty string.") }),
    (15,
      { label := "aws_sign_string"
        insertText :=
          ("aws_sign_string $\x7b1:<varName>\x7d using $\x7b2:<secret_key>\x7d " ++
           "$\x7b3:<date>\x7d $\x7b4:<region>\x7d $\x7b5:<service>\x7d")
        documentation :=
          ("Generates an AWS4-HMAC-SHA256 signature, used as the signature component of " ++
           "the Authorization HTTP header when calling the AWS API.") }),
    (16,
      { label := "basename"
        insertText := "basename $\x7b1:<var_name>\x7d"
        documentation := "Extracts the filename portion of a path + filename string." }),
    (17,
      { label := "basename as"
        insertText := "basename $\x7b1:<string>\x7d as $\x7b2:<var_name>\x7d"
        documentation :=
          ("Extracts the filename portion of a path + filename string into a separate " ++
           "variable.")
        sortText := some "basename" }),
    (18,
      { label := "clear http_headers"
        insertText := "clear http_headers"
        documentation :=
          ("Deletes all HTTP headers previously configured using the set http_header " ++
           "statement")
        sortText := some "clear" }),
    (19,
      { label := "discard"
        insertText := "discard \x7b$\x7b1:<buffer_name>\x7d\x7d"
        documentation := "Deletes a named buffer." }),
    (20,
      { label := "encode base16"
        insertText := "encode base16 $\x7b1:<var_or_buffer>\x7d"
        documentation := "Base16 encodes the contents of a variable or a named buffer."
        sortText := some "encode" }),
    (21,
      { label := "encode base64"
        insertText := "encode base64 $\x7b1:<var_or_buffer>\x7d"
        documentation := "Base64 encodes the contents of a variable or a named buffer."
        sortText := some "encode" }),
    (22,
      { label := "encrypt"
        insertText := "encrypt var $\x7b1:<var_name>\x7d = $\x7b2:<value>\x7d"
        documentation :=
          ("Conceals the value of a variable, such that it does not appear in plain text " ++
           "in a USE script.") }),
    (23,
      { label := "environment"
        insertText := "environment $\x7b1:<name>\x7d"
        documentation :=
          "Specifies the name of the environment to use for resolving global variables." }),
    (24,
      { label := "escape"
        insertText :=
          "escape quotes in $\x7b1:<var_or_buffer>\x7d $\x7b2:[using <escape_char>]\x7d"
        documentation := "Escapes quotes in a variable value or the contents of a named buffer." }),
    (25,
      { label := "exit_loop"
        insertText := "exit_loop"
        documentation := "Terminates the current loop." }),
    (26,
      { label := "generate_jwt"
        insertText :=
          ("generate_jwt key $\x7b1:<key>\x7d $\x7b2:<component>\x7d $\x7b3:[... " ++
           "<component>]\x7d as $\x7b4:<var_name>\x7d")
        documentation :=
          ("Generates an RFC 7515-compliant JWT (JSON Web Token) which can be used, for " ++
           "example, for Google Cloud OAuth 2.0 Server to Server Authentication.") }),
    (27,
      { label := "get_last_day_of"
        insertText := "get_last_day_of $\x7b1:<yyyyMM>\x7d as $\x7b2:<var_name>\x7d"
        documentation := "Sets a variable to contain the number of days in the specified month." }),
    (28,
      { label := "gunzip file"
        insertText := "gunzip $\x7b1:<filename>\x7d as $\x7b2:<filename>\x7d"
        documentation := "Inflates a GZIP file."
        sortText := some "gunzip" }),
    (29,
      { label := "gunzip buffer"
        insertText := "gunzip \x7b$\x7b1:<buffer_name>\x7d\x7d as $\x7b2:<filename>\x7d"
        documentation := "Inflates a GZIP buffer."
        sortText := some "gunzip" }),
    (30,
      { label := "hash sha256"
        insertText :=
          ("hash sha256 $\x7b1:[HMAC [b16|b64] <key>]\x7d $\x7b2:<var_or_buffer>\x7d as " ++
           "$\x7b3:<var_name>\x7d $\x7b4:[b16|b64]\x7d")
        documentation :=
          ("Generates a base-16 or base-64 encoded SHA256 hash of data stored in a " ++
           "variable or named buffer.")
        sortText := some "hash" }),
    (31,
      { label := "hash md5"
        insertText :=
          ("hash md5 $\x7b1:<var_or_buffer>\x7d as $\x7b2:<var_name>\x7d " ++
           "$\x7b3:[b16|b64]\x7d")
        documentation :=
          ("Generates a base-16 or base-64 encoded MD5 hash of data stored in a variable " ++
           "or named buffer.")
        sortText := some "hash" }),
    (32,
      { label := "http"
        insertText := "http $\x7b1:<method>\x7d $\x7b2:<url>\x7d"
        documentation :=
          ("Initiates an HTTP session using any settings previously configured using the " ++
           "set statement.")
        sortText := some "http" }),
    (33,
      { label := "http dump_headers"
        insertText := "http dump_headers"
        documentation :=
          ("Dumps a list of all the response headers returned by the server in the most " ++
           "recent session.")
        sortText := some "http" }),
    (34,
      { label := "http get_header"
        insertText := "http get_header $\x7b1:<header_name>\x7d as $\x7b2:<var_name>\x7d"
        documentation := "Retrieves the value of a specific header."
        sortText := some "http" }),
    (35,
      { label := "json"
        insertText := "json format \x7b$\x7b1:<buffer_name>\x7d\x7d"
        documentation := "Formats JSON in a named buffer." }),
    (36,
      { label := "loglevel"
        insertText := "loglevel $\x7b1:<level>\x7d"
        documentation := "Determines the amount of detail recorded in the USE script logfile." }),
    (37,
      { label := "pause"
        insertText := "pause $\x7b1:<delaytime>\x7d"
        documentation := "Suspends execution of a USE script for a specified time." }),
    (38,
      { label := "print"
        insertText := "print $\x7b1:[-n]\x7d $\x7b2:<text_or_buffer>\x7d"
        documentation := "Display text to standard output while a USE script is executing." }),
    (39,
      { label := "save"
        insertText := "save \x7b$\x7b1:<buffer_name>\x7d\x7d as $\x7b2:<file_name>\x7d"
        documentation := "Writes the contents of a named buffer to disk." }),
    (40,
      { label := "set"
        insertText := "set $\x7b1:<setting>\x7d $\x7b2:<value>\x7d"
        documentation := "Configures a setting for use by subsequent http or buffer statements." }),
    (41,
      { label := "terminate"
        insertText := "terminate"
        documentation := "Exits the USE script immediately."
        sortText := some "terminate" }),
    (42,
      { label := "terminate with error"
        insertText := "terminate with error"
        documentation := "Exits the USE script immediately, logging an error."
        sortText := some "terminate" }),
    (43,
      { label := "unzip"
        insertText := "unzip \x7b$\x7b1:<buffer_name>\x7d\x7d"
        documentation := "Unzips the data in a named buffer." }),
    (44,
      { label := "uri encode"
        insertText := "uri encode $\x7b1:<var_name>\x7d"
        documentation :=
          ("Encodes the contents of a variable such that it does not contain any illegal " ++
           "or ambiguous characters when used in an HTTP request.")
        sortText := some "uri" }),
    (45,
      { label := "uri component-encode"
        insertText := "uri component-encode $\x7b1:<var_name>\x7d"
        documentation :=
          ("Encodes the contents of a variable such that it does not contain any illegal " ++
           "or ambiguous characters when used in an HTTP request.")
        sortText := some "uri" }),
    (46,
      { label := "uri aws-object-encode"
        insertText := "uri aws-object-encode $\x7b1:<var_name>\x7d"
        documentation :=
          ("Encodes the contents of a variable such that it does not contain any illegal " ++
           "or ambiguous characters when used in an HTTP request.")
        sortText := some "uri" }),
    (47,
      { label := "buffer"
        insertText :=
          ("buffer $\x7b1:<var_name>\x7d = protocol $\x7b2:[... " ++
           "<protocol_parameter(s)>]\x7d")
        documentation := "Used to create and/or populate one of these named buffers with data." }),
    (48,
      { label := "csv"
        insertText := "csv $\x7b1:<label_name>\x7d = $\x7b2:<file_name>\x7d"
        documentation := "Used to create CSV files." }),
    (49,
      { label := "csv add_headers"
        insertText :=
          ("csv add_headers $\x7b1:<label_name>\x7d $\x7b2:<header1>\x7d " ++
           "$\x7b3:<header2>\x7d $\x7b4:[<headerN> ...]\x7d")
        documentation := "Used to add headers to CSV files."
        sortText := some "csv" }),
    (50,
      { label := "csv fix_headers"
        insertText := "csv fix_headers $\x7b1:<label_name>\x7d"
        documentation :=
          ("Used to permanently set the headers for CSV files so that data can be written " ++
           "to the file.")
        sortText := some "csv" }),
    (51,
      { label := "csv write_fields"
        insertText :=
          ("csv write_fields $\x7b1:<label_name>\x7d $\x7b2:<value1>\x7d " ++
           "$\x7b3:<value2>\x7d $\x7b4:[<valueN> ...]\x7d")
        documentation := "Used to write data to CSV files."
        sortText := some "csv" }),
    (52,
      { label := "csv close"
        insertText := "csv close $\x7b1:<label_name>\x7d"
        documentation := "Used to close CSV files."
        sortText := some "csv" }),
    (53,
      { label := "decimal_to_ipv4"
        insertText := "decimal_to_ipv4 $\x7b1:<variable_name>\x7d"
        documentation :=
          ("Converts a decimal value to an IPv4 address in conventional dotted-quad " ++
           "notation (such as 192.168.0.10).")
        category := none }),
    (54,
      { label := "decimal_to_ipv4 as"
        insertText :=
          ("decimal_to_ipv4 $\x7b1:<source_variable_name>\x7d as " ++
           "$\x7b2:<destination_variable_name>\x7d")
        documentation :=
          ("Converts a decimal value to an IPv4 address in conventional dotted-quad " ++
           "notation (such as 192.168.0.10), placing the value in the destination variable.")
        sortText := some "decimal_to_ipv4"
        category := none }),
    (55,
      { label := "gosub"
        insertText :=
          ("gosub $\x7b1:<subroutineName>\x7d ($\x7b2:<argument1>\x7d, " ++
           "$\x7b3:<argument2>\x7d, $\x7b4:[<argumentN> ...]\x7d)")
        documentation := "Used to run a named subroutine."
        category := none }),
    (56,
      { label := "ipv4_to_decimal"
        insertText := "ipv4_to_decimal $\x7b1:<variable_name>\x7d"
        documentation :=
          ("Converts an IPv4 address in conventional dotted-quad notation (such as " ++
           "192.168.0.10) to a decimal value.")
        category := none }),
    (57,
      { label := "ipv4_to_decimal as"
        insertText :=
          ("ipv4_to_decimal $\x7b1:<source_variable_name>\x7d as " ++
           "$\x7b2:<destination_variable_name>\x7d")
        documentation :=
          ("Converts an IPv4 address in conventional dotted-quad notation (such as " ++
           "192.168.0.10) to a decimal value, placing the value in the destination " ++
           "variable.")
        sortText := some "ipv4_to_decimal"
        category := none }),
    (58,
      { label := "loop"
        insertText :=
          ("$\x7b1:<looplabel>\x7d $\x7b2:[count]\x7d $\x7b3:[timeout timelimit]\x7d " ++
           "\x7b\n\t# Statements\n\x7d")
        documentation := "Executes one or more statements multiple times."
        category := none }),
    (59,
      { label := "lowercase"
        insertText := "lowercase $\x7b1:<variable_name>|\x7b<buffer_name>\\\x7d\x7d"
        documentation := "Sets all letters in a variable or named buffer to lower case."
        category := none }),
    (60,
      { label := "match"
        insertText := "match $\x7b1:<label_name>\x7d $\x7b2:<expression>\x7d $\x7b3:<target>\x7d"
        documentation :=
          ("Searches either a specified string or the contents of a named buffer using a " ++
           "regular expression.")
        category := none }),
    (61,
      { label := "return"
        insertText := "return"
        documentation :=
          "Exits a subroutine at an arbitrary point and returns to the calling location."
        category := none }),
    (62,
      { label := "subroutine"
        insertText := "subroutine $\x7b1:<subroutine_name>\x7d \x7b\n\t# Statements\n\x7d"
        documentation := "Defines a named subroutine."
        category := none }),
    (63,
      { label := "uppercase"
        insertText := "uppercase $\x7b1:<variable_name>|\x7b<buffer_name>\\\x7d\x7d"
        documentation := "Sets all letters in a variable or named buffer to upper case."
        category := none })
  ]

def builtIn : Tables := ofLists builtInCatalog builtInResolutions

end ScriptAssist.Completion.Tables
